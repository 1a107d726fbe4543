/-!
# The field of `2 ^ 255 - 19` elements

Elements are numbers below the modulus. A square root is found by a power and,
if that gives the root of the negative, one more factor.
-/

namespace SlotWallet.Ed25519

def modulus : Nat := (1 <<< 255) - 19

namespace Field

def add (a b : Nat) : Nat := (a + b) % modulus

def sub (a b : Nat) : Nat := (a + (modulus - b)) % modulus

def mul (a b : Nat) : Nat := a * b % modulus

def neg (a : Nat) : Nat := (modulus - a) % modulus

def pow (a : Nat) (e : Nat) : Nat :=
  if e = 0 then 1
  else
    let half := pow a (e / 2)
    let square := mul half half
    if e % 2 = 0 then square else mul square a
termination_by e
decreasing_by omega

def inv (a : Nat) : Nat := pow a (modulus - 2)

def sqrtMinusOne : Nat := pow 2 ((modulus - 1) / 4)

/-- The even root of `u / v`, for `v` other than zero, if there is one. -/
def sqrtRatio? (u v : Nat) : Option Nat :=
  let v3 := mul (mul v v) v
  let v7 := mul (mul v3 v3) v
  let root := mul (mul u v3) (pow (mul u v7) ((modulus - 5) / 8))
  let check := mul v (mul root root)
  let even (r : Nat) := if r % 2 = 0 then r else neg r
  if check = u then some (even root)
  else if check = neg u then some (even (mul root sqrtMinusOne))
  else none

end Field

end SlotWallet.Ed25519
