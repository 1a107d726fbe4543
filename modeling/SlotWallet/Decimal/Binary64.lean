/-!
# Double-precision numbers

A finite double is a whole number of units of `2 ^ -1074` with a sign: a
significand below `2 ^ 53` shifted left by at most 2045 places. Every operation
is exact on numerators and denominators and rounds once, to the nearest double,
a tie to the even significand. An overflow has no finite result.
-/

namespace SlotWallet.Decimal

structure Binary64 where
  negative : Bool
  significand : Nat
  shift : Nat
deriving DecidableEq

namespace Binary64

def maxShift : Nat := 2045

def unitsPerOne : Nat := 1 <<< 1074

/-- Every significand is below twice this number, and that of a shifted double is
no smaller than it. -/
def leastNormal : Nat := 1 <<< 52

def units (x : Binary64) : Nat := x.significand <<< x.shift

def zero (negative : Bool) : Binary64 := ⟨negative, 0, 0⟩

def isZero (x : Binary64) : Bool := x.significand == 0

/-- `num / den` to the nearest whole number, a tie to the even one. -/
def roundHalfEven (num den : Nat) : Nat :=
  let q := num / den
  let r := num % den
  if 2 * r < den then q
  else if den < 2 * r then q + 1
  else if q % 2 = 0 then q else q + 1

theorem roundHalfEven_exact (q den : Nat) (h : 0 < den) : roundHalfEven (q * den) den = q := by
  simp [roundHalfEven, Nat.mul_div_cancel _ h, h]

theorem roundHalfEven_near (num den : Nat) (h : 0 < den) :
    2 * (roundHalfEven num den * den) ≤ 2 * num + den ∧
      2 * num ≤ 2 * (roundHalfEven num den * den) + den := by
  have hd := Nat.div_add_mod num den
  have hr := Nat.mod_lt num h
  have hc : den * (num / den) = num / den * den := Nat.mul_comm _ _
  unfold roundHalfEven
  simp only
  split
  · omega
  · split
    · rw [Nat.add_mul]; omega
    · split
      · omega
      · rw [Nat.add_mul]; omega

def ofRatio (negative : Bool) (num den : Nat) : Option Binary64 :=
  let scaled := num * unitsPerOne
  let q := scaled / den
  let shift := if q < 2 * leastNormal then 0 else q.log2 - 52
  let rounded := roundHalfEven scaled (den <<< shift)
  let x : Binary64 :=
    if rounded = 2 * leastNormal then ⟨negative, leastNormal, shift + 1⟩
    else ⟨negative, rounded, shift⟩
  if x.shift ≤ maxShift then some x else none

def ofNat (n : Nat) : Option Binary64 := ofRatio false n 1

def mul (x y : Binary64) : Option Binary64 :=
  ofRatio (x.negative != y.negative) (x.units * y.units) (unitsPerOne * unitsPerOne)

def div (x y : Binary64) : Option Binary64 :=
  ofRatio (x.negative != y.negative) x.units y.units

def addSameSign (x y : Binary64) : Option Binary64 :=
  ofRatio x.negative (x.units + y.units) unitsPerOne

def magnitudeLt (x y : Binary64) : Bool := x.units < y.units

def floorMagnitude (x : Binary64) : Nat := x.units / unitsPerOne

def neg (x : Binary64) : Binary64 := { x with negative := !x.negative }

end Binary64

end SlotWallet.Decimal
