import SlotWallet.Decimal.Digits

/-!
# Writing TOML

A string is written in the plainest form that needs no escape: between double
quotes, then between single quotes, then the same over several lines. Where no
form does without escapes, double quotes are used, over several lines if the
text has line ends.
-/

namespace SlotWallet.Toml

def needsEscape (c : Char) : Bool :=
  (c.toNat < 32 && c ≠ '\t' && c ≠ '\n') || c.toNat = 127

/-- `c` occurs more than `limit` times in a row; `seen` times just before. -/
def runExceeds (c : Char) (limit seen : Nat) : List Char → Bool
  | [] => false
  | d :: rest =>
    if d = c then limit ≤ seen || runExceeds c limit (seen + 1) rest
    else runExceeds c limit 0 rest

inductive StringForm where
  | basic
  | literal
  | longBasic
  | longLiteral
deriving DecidableEq

def StringForm.ofText (text : List Char) : StringForm :=
  let controls := text.any needsEscape
  let backslash := text.any (· = '\\')
  let newline := text.any (· = '\n')
  let singleOver (limit : Nat) := runExceeds '\'' limit 0 text
  let doubleOver (limit : Nat) := runExceeds '"' limit 0 text
  if !controls && !backslash && !newline && !doubleOver 0 then .basic
  else if !controls && !newline && !singleOver 0 then .literal
  else if !controls && !backslash && !doubleOver 2 then .longBasic
  else if !controls && !singleOver 2 then .longLiteral
  else if newline then .longBasic
  else .basic

def escapeControl (c : Char) : List Char :=
  if c.toNat = 8 then ['\\', 'b']
  else if c = '\t' then ['\\', 't']
  else if c = '\n' then ['\\', 'n']
  else if c.toNat = 12 then ['\\', 'f']
  else if c = '\r' then ['\\', 'r']
  else if c = '\\' then ['\\', '\\']
  else if c.toNat < 32 ∨ c.toNat = 127 then
    ['\\', 'u', '0', '0', (Nat.digitChar (c.toNat / 16)).toUpper,
      (Nat.digitChar (c.toNat % 16)).toUpper]
  else [c]

def basicBody (text : List Char) : List Char :=
  text.flatMap fun c => if c = '"' then ['\\', '"'] else escapeControl c

/-- Line feeds stay, and of three double quotes in a row the third is escaped;
`seen` of them stand just before. -/
def longBasicBody (seen : Nat) : List Char → List Char
  | [] => []
  | c :: rest =>
    if c = '"' then
      if seen = 2 then '\\' :: '"' :: longBasicBody 0 rest else '"' :: longBasicBody (seen + 1) rest
    else if c = '\n' then '\n' :: longBasicBody 0 rest
    else escapeControl c ++ longBasicBody 0 rest

def opening (text : List Char) : List Char :=
  if text.any (· = '\n') then ['\n'] else []

def stringChars (text : List Char) : List Char :=
  match StringForm.ofText text with
  | .basic => ['"'] ++ basicBody text ++ ['"']
  | .literal => ['\''] ++ text ++ ['\'']
  | .longBasic => ['"', '"', '"'] ++ opening text ++ longBasicBody 0 text ++ ['"', '"', '"']
  | .longLiteral => ['\'', '\'', '\''] ++ opening text ++ text ++ ['\'', '\'', '\'']

def assignment (key value : List Char) : List Char :=
  key ++ [' ', '=', ' '] ++ value ++ ['\n']

end SlotWallet.Toml
