import SlotWallet.Text.Ascii

/-!
# Strings of TOML

Four forms: between double quotes with escapes, between single quotes without,
and each of them between three quotes over several lines. Over several lines a
line end right after the opening does not count, every other one is a line feed,
and one or two quotes may stand anywhere, also right before the closing three.
-/

namespace SlotWallet.Toml

open Text (hexValue?)

def isControl (c : Char) : Bool :=
  (c.toNat < 32 && c ≠ '\t') || c.toNat = 127

def shortEscape? (c : Char) : Option Char :=
  if c = 'b' then some (Char.ofNat 8)
  else if c = 't' then some '\t'
  else if c = 'n' then some '\n'
  else if c = 'f' then some (Char.ofNat 12)
  else if c = 'r' then some '\r'
  else if c = '"' then some '"'
  else if c = '\\' then some '\\'
  else none

def charOfHex? (digits : List Char) : Option Char := do
  let n ← digits.foldlM (fun n c => (hexValue? c).map (16 * n + ·)) 0
  if n.isValidChar then some (Char.ofNat n) else none

def readBasic : List Char → Option (List Char × List Char)
  | [] => none
  | '"' :: rest => some ([], rest)
  | '\\' :: 'u' :: a :: b :: c :: d :: rest => do
    let char ← charOfHex? [a, b, c, d]
    let (text, rest) ← readBasic rest
    pure (char :: text, rest)
  | '\\' :: 'U' :: a :: b :: c :: d :: e :: f :: g :: h :: rest => do
    let char ← charOfHex? [a, b, c, d, e, f, g, h]
    let (text, rest) ← readBasic rest
    pure (char :: text, rest)
  | '\\' :: e :: rest => do
    let char ← shortEscape? e
    let (text, rest) ← readBasic rest
    pure (char :: text, rest)
  | c :: rest =>
    if c = '\\' ∨ isControl c then none
    else do
      let (text, rest) ← readBasic rest
      pure (c :: text, rest)

def readLiteral : List Char → Option (List Char × List Char)
  | [] => none
  | '\'' :: rest => some ([], rest)
  | c :: rest =>
    if isControl c then none
    else do
      let (text, rest) ← readLiteral rest
      pure (c :: text, rest)

def endsLine : List Char → Bool
  | '\n' :: _ => true
  | '\r' :: '\n' :: _ => true
  | c :: rest => if c = ' ' ∨ c = '\t' then endsLine rest else false
  | [] => false

/-- A string after its three opening double quotes. While `skipping`, after a
backslash at the end of a line, blanks and line ends are left out. -/
def readLongBasic (skipping : Bool) : List Char → Option (List Char × List Char)
  | [] => none
  | '"' :: '"' :: '"' :: '"' :: '"' :: rest => some (['"', '"'], rest)
  | '"' :: '"' :: '"' :: '"' :: rest => some (['"'], rest)
  | '"' :: '"' :: '"' :: rest => some ([], rest)
  | '\r' :: '\n' :: rest =>
    if skipping then readLongBasic true rest
    else do
      let (text, rest) ← readLongBasic false rest
      pure ('\n' :: text, rest)
  | '\\' :: 'u' :: a :: b :: c :: d :: rest => do
    let char ← charOfHex? [a, b, c, d]
    let (text, rest) ← readLongBasic false rest
    pure (char :: text, rest)
  | '\\' :: 'U' :: a :: b :: c :: d :: e :: f :: g :: h :: rest => do
    let char ← charOfHex? [a, b, c, d, e, f, g, h]
    let (text, rest) ← readLongBasic false rest
    pure (char :: text, rest)
  | '\\' :: e :: rest =>
    if endsLine (e :: rest) then readLongBasic true (e :: rest)
    else do
      let char ← shortEscape? e
      let (text, rest) ← readLongBasic false rest
      pure (char :: text, rest)
  | c :: rest =>
    if skipping && (c = ' ' || c = '\t' || c = '\n') then readLongBasic true rest
    else if c = '\\' ∨ (isControl c ∧ c ≠ '\n') then none
    else do
      let (text, rest) ← readLongBasic false rest
      pure (c :: text, rest)

def readLongLiteral : List Char → Option (List Char × List Char)
  | [] => none
  | '\'' :: '\'' :: '\'' :: '\'' :: '\'' :: rest => some (['\'', '\''], rest)
  | '\'' :: '\'' :: '\'' :: '\'' :: rest => some (['\''], rest)
  | '\'' :: '\'' :: '\'' :: rest => some ([], rest)
  | '\r' :: '\n' :: rest => do
    let (text, rest) ← readLongLiteral rest
    pure ('\n' :: text, rest)
  | c :: rest =>
    if isControl c ∧ c ≠ '\n' then none
    else do
      let (text, rest) ← readLongLiteral rest
      pure (c :: text, rest)

def skipLineEnd : List Char → List Char
  | '\n' :: rest => rest
  | '\r' :: '\n' :: rest => rest
  | text => text

def readString : List Char → Option (List Char × List Char)
  | '"' :: '"' :: '"' :: rest => readLongBasic false (skipLineEnd rest)
  | '"' :: rest => readBasic rest
  | '\'' :: '\'' :: '\'' :: rest => readLongLiteral (skipLineEnd rest)
  | '\'' :: rest => readLiteral rest
  | _ => none

end SlotWallet.Toml
