import SlotWallet.Decimal.Digits
import SlotWallet.Text.Ascii

/-!
# The grammar of JSON

A document is first read as written: number literals keep their digits, and a
string with an unpaired surrogate is kept as one that holds no text. What a
literal may amount to, and how deep values may nest, is settled later, and only
for the parts of a document that are used.
-/

namespace SlotWallet.Json

structure Numeral where
  negative : Bool
  whole : List Char
  fraction : List Char
  exponent : Option (Bool × List Char)

/-- A document as written; `string none` has an unpaired surrogate. -/
inductive Written where
  | null
  | bool (value : Bool)
  | number (numeral : Numeral)
  | string (text : Option String)
  | array (elements : List Written)
  | object (members : List (Option String × Written))

namespace Grammar

open Text (hexValue?)

def isBlank (c : Char) : Bool :=
  c = ' ' || c = '\t' || c = '\n' || c = '\r'

def skipBlanks (text : List Char) : List Char := text.dropWhile isBlank

def afterWord? : List Char → List Char → Option (List Char)
  | [], text => some text
  | w :: word, c :: text => if w = c then afterWord? word text else none
  | _ :: _, [] => none

def readHex4? : List Char → Option (Nat × List Char)
  | a :: b :: c :: d :: rest => do
    let a ← hexValue? a
    let b ← hexValue? b
    let c ← hexValue? c
    let d ← hexValue? d
    pure (((a * 16 + b) * 16 + c) * 16 + d, rest)
  | _ => none

inductive Unit16 where
  | char (c : Char)
  | high (n : Nat)
  | low (n : Nat)

def Unit16.ofNat (n : Nat) : Unit16 :=
  if 0xD800 ≤ n ∧ n ≤ 0xDBFF then .high n
  else if 0xDC00 ≤ n ∧ n ≤ 0xDFFF then .low n
  else .char (Char.ofNat n)

/-- Joins surrogate pairs; nothing if one is unpaired. A pair counts only when
both halves are escaped one right after the other, as `units` has them. -/
def joinUnits : List Unit16 → Option (List Char)
  | [] => some []
  | .char c :: rest => (joinUnits rest).map (c :: ·)
  | .high h :: .low l :: rest =>
    (joinUnits rest).map (Char.ofNat (0x10000 + (h - 0xD800) * 0x400 + (l - 0xDC00)) :: ·)
  | .high _ :: _ => none
  | .low _ :: _ => none

def shortEscape? (c : Char) : Option Char :=
  if c = '"' ∨ c = '\\' ∨ c = '/' then some c
  else if c = 'b' then some (Char.ofNat 8)
  else if c = 'f' then some (Char.ofNat 12)
  else if c = 'n' then some '\n'
  else if c = 'r' then some '\r'
  else if c = 't' then some '\t'
  else none

def readUnits (fuel : Nat) (text : List Char) : Option (List Unit16 × List Char) :=
  match fuel, text with
  | fuel + 1, c :: rest =>
    if c = '"' then some ([], rest)
    else if c.toNat < 32 then none
    else if c = '\\' then
      match rest with
      | 'u' :: hex => do
        let (n, rest) ← readHex4? hex
        let (units, rest) ← readUnits fuel rest
        pure (Unit16.ofNat n :: units, rest)
      | e :: rest => do
        let c ← shortEscape? e
        let (units, rest) ← readUnits fuel rest
        pure (.char c :: units, rest)
      | [] => none
    else do
      let (units, rest) ← readUnits fuel rest
      pure (.char c :: units, rest)
  | _, _ => none

def readString (text : List Char) : Option (Option String × List Char) := do
  let (units, rest) ← readUnits (text.length + 1) text
  pure ((joinUnits units).map String.ofList, rest)

def readDigits1? (text : List Char) : Option (List Char × List Char) :=
  let digits := text.takeWhile Char.isDigit
  if digits = [] then none else some (digits, text.dropWhile Char.isDigit)

/-- A number literal: no leading zeros, and digits on both sides of a point. -/
def readNumeral (text : List Char) : Option (Numeral × List Char) := do
  let (negative, text) :=
    match text with
    | '-' :: rest => (true, rest)
    | _ => (false, text)
  let (whole, text) ← readDigits1? text
  if whole.head? = some '0' ∧ whole.length ≠ 1 then none
  let (fraction, text) ←
    match text with
    | '.' :: rest => readDigits1? rest
    | _ => some ([], text)
  match text with
  | c :: rest =>
    if c = 'e' ∨ c = 'E' then do
      let (negativeExponent, rest) := match rest with
        | '-' :: rest => (true, rest)
        | '+' :: rest => (false, rest)
        | _ => (false, rest)
      let (digits, rest) ← readDigits1? rest
      pure (⟨negative, whole, fraction, some (negativeExponent, digits)⟩, rest)
    else pure (⟨negative, whole, fraction, none⟩, text)
  | [] => pure (⟨negative, whole, fraction, none⟩, text)

mutual

def readValue (fuel : Nat) (text : List Char) : Option (Written × List Char) :=
  match fuel with
  | 0 => none
  | fuel + 1 =>
    match skipBlanks text with
    | [] => none
    | '"' :: rest => (readString rest).map fun (s, rest) => (.string s, rest)
    | '[' :: rest =>
      match skipBlanks rest with
      | ']' :: rest => some (.array [], rest)
      | _ => (readElements fuel rest).map fun (es, rest) => (.array es, rest)
    | '\x7b' :: rest =>
      match skipBlanks rest with
      | '\x7d' :: rest => some (.object [], rest)
      | _ => (readMembers fuel rest).map fun (ms, rest) => (.object ms, rest)
    | 'n' :: rest => (afterWord? "ull".toList rest).map fun rest => (.null, rest)
    | 't' :: rest => (afterWord? "rue".toList rest).map fun rest => (.bool true, rest)
    | 'f' :: rest => (afterWord? "alse".toList rest).map fun rest => (.bool false, rest)
    | c :: rest => (readNumeral (c :: rest)).map fun (n, rest) => (.number n, rest)

def readElements (fuel : Nat) (text : List Char) : Option (List Written × List Char) :=
  match fuel with
  | 0 => none
  | fuel + 1 => do
    let (value, rest) ← readValue fuel text
    match skipBlanks rest with
    | ',' :: rest => do
      let (values, rest) ← readElements fuel rest
      pure (value :: values, rest)
    | ']' :: rest => pure ([value], rest)
    | _ => none

def readMembers (fuel : Nat) (text : List Char) :
    Option (List (Option String × Written) × List Char) :=
  match fuel with
  | 0 => none
  | fuel + 1 =>
    match skipBlanks text with
    | '"' :: rest => do
      let (key, rest) ← readString rest
      match skipBlanks rest with
      | ':' :: rest => do
        let (value, rest) ← readValue fuel rest
        match skipBlanks rest with
        | ',' :: rest => do
          let (members, rest) ← readMembers fuel rest
          pure ((key, value) :: members, rest)
        | '\x7d' :: rest => pure ([(key, value)], rest)
        | _ => none
      | _ => none
    | _ => none

end

end Grammar

def Written.read? (text : List Char) : Option Written := do
  let (value, rest) ← Grammar.readValue (2 * text.length + 2) text
  if Grammar.skipBlanks rest = [] then some value else none

end SlotWallet.Json
