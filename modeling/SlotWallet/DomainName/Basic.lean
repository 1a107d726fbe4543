import SlotWallet.DomainName.Label

/-!
# Domain names

A name is written in many ways: with capitals, with dots and digits of other
scripts, with letters in parts, or encoded. It is read by mapping each character
and composing the outcome; then each label is decoded and checked.
-/

namespace SlotWallet.DomainName

def isDenied (c : Char) : Bool :=
  c.toNat ≤ 32 || c.toNat = 127 || "%#/:<>?@[\\]^|".toList.contains c

def labels? (written : List Char) : Option (List (List Char)) := do
  let mapped ← written.mapM map?
  let text := Text.composedForm mapped.flatten
  guard (!text.any isDenied)
  let labels ← (text.splitOn '.').mapM Label.read?
  guard (labels.all Label.isWellFormed)
  guard (!labels.any Label.hasRightToLeft || labels.all Label.hasOneDirection)
  pure labels

/-- The name that a text is a way to write; it is not empty. -/
def read? (written : List Char) : Option (List Char) := do
  let name := List.intercalate ['.'] (← labels? written)
  guard (name ≠ [])
  pure name

end SlotWallet.DomainName
