/-!
# ASCII letters

Keywords and units are matched without regard to the case of ASCII letters; no
other letter has a second form here.
-/

namespace SlotWallet.Text

def asciiLower (c : Char) : Char :=
  if 65 ≤ c.toNat ∧ c.toNat ≤ 90 then Char.ofNat (c.toNat + 32) else c

def sameLetters (a b : List Char) : Bool :=
  a.map asciiLower == b.map asciiLower

theorem length_eq_of_sameLetters {a b : List Char} (h : sameLetters a b = true) :
    a.length = b.length := by
  have h' := congrArg List.length (eq_of_beq h)
  simpa using h'

def isAscii (c : Char) : Bool := c.toNat < 128

def hexValue? (c : Char) : Option Nat :=
  let n := c.toNat
  if 48 ≤ n ∧ n ≤ 57 then some (n - 48)
  else if 97 ≤ n ∧ n ≤ 102 then some (n - 87)
  else if 65 ≤ n ∧ n ≤ 70 then some (n - 55)
  else none

def isHexDigit (c : Char) : Bool := (hexValue? c).isSome

end SlotWallet.Text
