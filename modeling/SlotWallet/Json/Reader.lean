import SlotWallet.Json.Basic
import SlotWallet.Json.Grammar

/-!
# Documents as values

A whole number that fits 64 bits, signed or not, is kept exactly. Every other
literal becomes a double: as many leading digits as fit an unsigned 64-bit
number are scaled once by a power of ten. A literal beyond all doubles, an
unpaired surrogate and values nested too deep have no value.
-/

namespace SlotWallet.Json

open Decimal

def maxDepth : Nat := 127

def maxUnsigned : Nat := UInt64.size - 1

def maxSigned : Nat := maxUnsigned / 2

def maxPowerOfTen : Nat := 308

/-- The digits of a literal that count, and how many places they are short of
its point (below zero: beyond it). -/
structure Leading where
  significand : Nat
  places : Int

def Leading.ofWhole : Leading → List Char → Leading
  | x, [] => x
  | x, c :: rest =>
    let next := 10 * x.significand + digitValue c
    if next ≤ maxUnsigned then ofWhole ⟨next, x.places⟩ rest
    else ⟨x.significand, x.places + (rest.length + 1)⟩

def Leading.withFraction : Leading → List Char → Leading
  | x, [] => x
  | x, c :: rest =>
    let next := 10 * x.significand + digitValue c
    if next ≤ maxUnsigned then withFraction ⟨next, x.places - 1⟩ rest else x

/-- `x × 10 ^ exponent`. A far negative exponent is applied in steps. -/
def scaleByTen (x : Binary64) (exponent : Int) : Option Binary64 :=
  match exponent with
  | .ofNat e =>
    if e ≤ maxPowerOfTen then do (← Binary64.ofNat (powerOfTen e)).mul x
    else if x.isZero then some x else none
  | .negSucc e =>
    if e + 1 ≤ maxPowerOfTen then do x.div (← Binary64.ofNat (powerOfTen (e + 1)))
    else if x.isZero then some x
    else do
      let x ← x.div (← Binary64.ofNat (powerOfTen maxPowerOfTen))
      if e + 1 ≤ 2 * maxPowerOfTen then
        x.div (← Binary64.ofNat (powerOfTen (e + 1 - maxPowerOfTen)))
      else some (.zero false)

/-- An exponent of more than 31 bits settles the number by its sign alone. -/
def Numeral.toDouble? (n : Numeral) : Option Binary64 := do
  let lead := (Leading.ofWhole ⟨0, 0⟩ n.whole).withFraction n.fraction
  let magnitude ←
    match n.exponent with
    | none => scaleByTen (← Binary64.ofNat lead.significand) lead.places
    | some (negative, digits) =>
      let e := value digits
      if UInt32.size / 2 ≤ e then
        if lead.significand ≠ 0 ∧ !negative then none else some (.zero false)
      else
        scaleByTen (← Binary64.ofNat lead.significand)
          (lead.places + if negative then -(e : Int) else e)
  pure { magnitude with negative := n.negative }

def Numeral.toJson? (n : Numeral) : Option Json :=
  if n.fraction = [] ∧ n.exponent.isNone then
    let v := value n.whole
    if n.negative = false ∧ v ≤ maxUnsigned then some (.int v)
    else if n.negative ∧ v ≠ 0 ∧ v ≤ maxSigned + 1 then some (.int (-(v : Int)))
    else n.toDouble?.map .double
  else n.toDouble?.map .double

mutual

def Written.toJson? (depth : Nat) : Written → Option Json
  | .null => some .null
  | .bool b => some (.bool b)
  | .number n => n.toJson?
  | .string s => s.map .string
  | .array elements => if depth = 0 then none else (elementsToJson? (depth - 1) elements).map .array
  | .object members =>
    if depth = 0 then none else (membersToJson? (depth - 1) members).map ofMembers

def elementsToJson? (depth : Nat) : List Written → Option (List Json)
  | [] => some []
  | w :: rest => do
    let value ← w.toJson? depth
    let values ← elementsToJson? depth rest
    pure (value :: values)

def membersToJson? (depth : Nat) : List (Option String × Written) → Option (List (String × Json))
  | [] => some []
  | (key, w) :: rest => do
    let key ← key
    let value ← w.toJson? depth
    let members ← membersToJson? depth rest
    pure ((key, value) :: members)

end

def read? (text : String) : Option Json := do
  (← Written.read? text.toList).toJson? maxDepth

end SlotWallet.Json
