import SlotWallet.Text.Ascii

/-!
# Tables of code points

A property of characters is kept as text: words apart by blanks, in the order of
the code points. A word is a code point in hexadecimal, or the first and the last
of a run with a hyphen between them, and behind that what they have in common. A
character of no run does not have the property.
-/

namespace SlotWallet.Text

structure Run (α : Type) where
  first : Nat
  last : Nat
  value : α

namespace Run

def readNumber (text : List Char) : Nat × List Char :=
  let digits := text.takeWhile isHexDigit
  (digits.foldl (fun n c => 16 * n + (hexValue? c).getD 0) 0, text.dropWhile isHexDigit)

def readCharacters (text : List Char) : List Char :=
  ((text.splitOn '+').filter (· ≠ [])).map fun digits => Char.ofNat (readNumber digits).1

def ofWord {α : Type} (value : List Char → α) (word : List Char) : Run α :=
  let (first, rest) := readNumber word
  match rest with
  | '-' :: rest =>
    let (last, rest) := readNumber rest
    ⟨first, last, value rest⟩
  | _ => ⟨first, first, value rest⟩

/-- Reads a table; `value` reads what is behind the code points. -/
def table {α : Type} (value : List Char → α) (text : String) : List (Run α) :=
  let spaced := text.toList.map fun c => if c = '\n' then ' ' else c
  ((spaced.splitOn ' ').filter (· ≠ [])).map (ofWord value)

def find? {α : Type} (runs : List (Run α)) (c : Char) : Option (Run α) :=
  match runs.dropWhile (fun run => run.last < c.toNat) with
  | run :: _ => if run.first ≤ c.toNat then some run else none
  | [] => none

def value? {α : Type} (runs : List (Run α)) (c : Char) : Option α :=
  (find? runs c).map (·.value)

end Run

end SlotWallet.Text
