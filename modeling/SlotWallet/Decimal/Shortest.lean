import SlotWallet.Decimal.Binary64
import SlotWallet.Decimal.Digits

/-!
# The shortest decimal form of a double

Among the decimals that round to a double, the one with the fewest digits is
written, and of those the nearest; an exact tie goes to the even digit. Grids of
one to seventeen digits are tried in turn, and on each only the two neighbours
of the value can be the answer.
-/

namespace SlotWallet.Decimal

structure Scientific where
  digits : Nat
  exponent : Int
deriving DecidableEq

def Scientific.normalize (fuel : Nat) (x : Scientific) : Scientific :=
  match fuel with
  | 0 => x
  | fuel + 1 =>
    if x.digits ≠ 0 ∧ x.digits % 10 = 0 then
      Scientific.normalize fuel ⟨x.digits / 10, x.exponent + 1⟩
    else x

/-- The reals that round to a positive double, as numerators over one
denominator. The ends belong to them iff the significand is even. -/
structure RoundingInterval where
  low : Nat
  mid : Nat
  high : Nat
  den : Nat
  closed : Bool

namespace Binary64

def roundingInterval (x : Binary64) : RoundingInterval where
  mid := 4 * x.units
  low := 4 * x.units - (if x.significand = leastNormal ∧ 0 < x.shift then 1 else 2) <<< x.shift
  high := 4 * x.units + (2 <<< x.shift)
  den := 4 * unitsPerOne
  closed := x.significand % 2 == 0

end Binary64

namespace RoundingInterval

def leadingExponent (i : RoundingInterval) : Int :=
  if i.den ≤ i.mid then ((ofNat (i.mid / i.den)).length : Int) - 1
  else
    let inverse := (i.den + i.mid - 1) / i.mid
    Int.negOfNat (ofNat (inverse - 1)).length

def scale (i : RoundingInterval) (exponent : Int) : RoundingInterval :=
  match exponent with
  | .ofNat e => { i with den := i.den * powerOfTen e }
  | .negSucc e =>
    let k := powerOfTen (e + 1)
    { i with low := i.low * k, mid := i.mid * k, high := i.high * k }

def holds (i : RoundingInterval) (n : Nat) : Bool :=
  let p := n * i.den
  if i.closed then i.low ≤ p && p ≤ i.high else i.low < p && p < i.high

def nearest? (i : RoundingInterval) : Option Nat :=
  let below := i.mid / i.den
  let above := below + 1
  match i.holds below, i.holds above with
  | true, true =>
    let down := i.mid - below * i.den
    let up := above * i.den - i.mid
    if down < up then some below
    else if up < down then some above
    else if below % 2 = 0 then some below else some above
  | true, false => some below
  | false, true => some above
  | false, false => none

/-- Tries grids of `tried + 1`, `tried + 2`, … digits, `left` of them. -/
def search (i : RoundingInterval) (lead : Int) : Nat → Nat → Option Scientific
  | _, 0 => none
  | tried, left + 1 =>
    let exponent := lead - tried
    match (i.scale exponent).nearest? with
    | some n => if n = 0 then search i lead (tried + 1) left else some ⟨n, exponent⟩
    | none => search i lead (tried + 1) left

end RoundingInterval

def Binary64.shortest (x : Binary64) : Scientific :=
  let i := x.roundingInterval
  match i.search i.leadingExponent 0 17 with
  | some s => s.normalize 20
  | none => ⟨0, 0⟩

end SlotWallet.Decimal
