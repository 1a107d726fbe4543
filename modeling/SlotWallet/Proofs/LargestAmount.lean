import Mathlib.Algebra.Order.Field.Power
import Mathlib.Algebra.Order.Round
import Mathlib.Data.Rat.Floor
import Mathlib.Tactic.FieldSimp
import Mathlib.Tactic.NormNum
import SlotWallet.Proofs.Amount

/-!
# Amounts beyond the largest

An amount of SOL is compared with the largest one as a double, so every amount that is rounded
to this double passes. It stands for the half-open interval up to the middle between it and the
next double, and all of these amounts are read as the greatest number of lamports; from the
middle on they are refused (`parse_excess`).
-/

namespace SlotWallet

-- ---------------------------------------------------------------------------
-- What a text denotes
-- ---------------------------------------------------------------------------

namespace Decimal

def Denoted.value (x : Denoted) : ℚ :=
  (if x.negative then -1 else 1) * x.digits * 10 ^ x.exponent

namespace Denoted

variable {x : Denoted}

theorem not_negative (h : 0 < x.value) : x.negative = false := by
  cases hx : x.negative with
  | false => rfl
  | true =>
    have hle : 0 ≤ (x.digits : ℚ) * 10 ^ x.exponent := by positivity
    simp only [value, hx, if_true] at h
    linarith

theorem digits_ne_zero (h : 0 < x.value) : x.digits ≠ 0 := by
  intro hzero
  simp [value, hzero] at h

theorem powerOfTen_eq (e : Nat) : ((powerOfTen e : ℕ) : ℚ) = 10 ^ e := by
  change ((10 ^ e : ℕ) : ℚ) = 10 ^ e
  push_cast
  rfl

/-- A number from one on is read as the double nearest to it, unless it is far beyond every
double. -/
theorem toBinary64_of_one_le (h : 1 ≤ x.value) :
    x.toBinary64 = none ∧ 2 ^ 35 ≤ x.value ∨
      ∃ num den : ℕ, 0 < den ∧ x.value = num / den ∧
        x.toBinary64 = Binary64.ofRatio false num den := by
  have hpos : 0 < x.value := lt_of_lt_of_le one_pos h
  have hnegative := not_negative hpos
  have hdigits := digits_ne_zero hpos
  obtain ⟨negative, digits, exponent⟩ := x
  subst hnegative
  simp only [value, Bool.false_eq_true, if_false, one_mul] at h ⊢
  rw [toBinary64, if_neg hdigits]
  have hone : (1 : ℚ) ≤ digits := by exact_mod_cast Nat.one_le_iff_ne_zero.mpr hdigits
  cases exponent with
  | ofNat e =>
    have hten : (10 : ℚ) ^ Int.ofNat e = 10 ^ e := zpow_natCast 10 e
    dsimp only
    split
    · rename_i hlarge
      refine .inl ⟨rfl, ?_⟩
      have hpow : (10 : ℚ) ^ 11 ≤ 10 ^ e := pow_le_pow_right₀ (by norm_num) (by omega)
      calc (2 : ℚ) ^ 35 ≤ 10 ^ 11 := by norm_num
        _ ≤ 10 ^ e := hpow
        _ ≤ digits * 10 ^ e := le_mul_of_one_le_left (by positivity) hone
        _ = digits * 10 ^ Int.ofNat e := by rw [hten]
    · refine .inr ⟨_, 1, one_pos, ?_, rfl⟩
      rw [hten, Nat.cast_mul, powerOfTen_eq, Nat.cast_one, div_one]
  | negSucc e =>
    have hten : (10 : ℚ) ^ Int.negSucc e = (10 ^ (e + 1))⁻¹ := zpow_negSucc 10 e
    have htenpos : (0 : ℚ) < 10 ^ (e + 1) := by positivity
    rw [hten] at h ⊢
    dsimp only
    split
    · rename_i hsmall
      have hlog : digits < 2 ^ (digits.log2 + 1) := Nat.lt_log2_self
      have hlt : digits < 10 ^ (e + 1) := by
        calc digits < 2 ^ (digits.log2 + 1) := hlog
          _ ≤ 10 ^ (digits.log2 + 1) := Nat.pow_le_pow_left (by decide) _
          _ ≤ 10 ^ (e + 1) := Nat.pow_le_pow_right (by decide) (by omega)
      have hcast : (digits : ℚ) < 10 ^ (e + 1) := by exact_mod_cast hlt
      rw [← div_eq_mul_inv, one_le_div htenpos] at h
      exact absurd h (not_le.mpr hcast)
    · refine .inr ⟨_, _, ?_, ?_, rfl⟩
      · exact Nat.pow_pos (by decide)
      · rw [powerOfTen_eq, div_eq_mul_inv]

end Denoted

end Decimal

namespace Amount

open Decimal
open Binary64 (unitsPerOne)

-- ---------------------------------------------------------------------------
-- Texts of SOL
-- ---------------------------------------------------------------------------

inductive ReadsSol (text : List Char) : List Char → Prop
  | unit {number : List Char} (hunit : stripUnit (Text.trim text) = some number) :
      ReadsSol text number
  | fractional (hunit : stripUnit (Text.trim text) = none)
      (hlooks : looksFractional (Text.trim text) = true) : ReadsSol text (Text.trim text)

theorem ReadsSol.parseChars_eq {text number : List Char} (h : ReadsSol text number) :
    parseChars text = readAsSol number := by
  cases h with
  | unit hunit =>
    have hne : Text.trim text ≠ [] := by
      intro hnil
      rw [hnil] at hunit
      contradiction
    simp [parseChars, hne, hunit]
  | fractional hunit hlooks =>
    have hne : Text.trim text ≠ [] := by
      intro hnil
      rw [hnil] at hlooks
      contradiction
    simp [parseChars, hne, hunit, hlooks]

-- ---------------------------------------------------------------------------
-- The interval of the largest amount
-- ---------------------------------------------------------------------------

variable {num den : Nat}

/-- From half a lamport below what is too much up to the middle above the largest amount,
everything is rounded to the largest amount. -/
theorem ofRatio_eq_maxSol (hden : 0 < den) (hlow : 2 ^ 65 * den ≤ 2 * 10 ^ 9 * num + den)
    (hhigh : num * 2 ^ 19 < 9671406556917035 * den) :
    Binary64.ofRatio false num den = some maxSol := by
  have hrounded : Binary64.roundHalfEven (num * 2 ^ 18) den = 4835703278458517 :=
    Binary64.roundHalfEven_eq hden (by omega) (by omega)
  exact Binary64.ofRatio_binade (k := 34) (j := 18) hden (by omega) (by omega) rfl hrounded
    (by decide)

/-- From the middle on everything is rounded to more, the middle as well since the largest
amount is odd. -/
theorem maxSol_lt {sol : Binary64} (h : Binary64.ofRatio false num den = some sol)
    (hden : 0 < den) (hle : 9671406556917035 * den ≤ num * 2 ^ 19) :
    maxSol.units < sol.units := by
  have hplace : 0 < 2 ^ (34 + 1022) := by positivity
  rw [units_maxSol]
  by_cases hbinade : num < den * 2 ^ 35
  · have hmiddle : 2 * 4835703278458517 * den + den ≤ 2 * (num * 2 ^ 18) := by omega
    have hrounded := Binary64.lt_roundHalfEven hden rfl hmiddle
    rw [Binary64.units_ofRatio_binade (k := 34) (j := 18) hden (by omega) hbinade rfl h,
      Nat.mul_comm]
    exact Nat.mul_lt_mul_of_pos_right hrounded hplace
  · have hnormal : den * 2 ^ 52 ≤ num * unitsPerOne := by
      have hunit : 2 ^ 52 ≤ unitsPerOne := by
        have := (unitsPerOne_le one_ne_zero).1
        omega
      exact Nat.mul_le_mul (show den ≤ num by omega) hunit
    have hlarge := Nat.mul_le_mul_right unitsPerOne (Nat.not_lt.mp hbinade)
    obtain ⟨-, hrelative⟩ := Binary64.ofRatio_relative h hden hnormal
    have hplaces : unitsPerOne = 2 ^ (34 + 1022) * 2 ^ 18 := Binary64.unitsPerOne_eq_mul rfl
    rw [hplaces] at hrelative hlarge
    generalize 2 ^ (34 + 1022) = place at hplace hrelative hlarge ⊢
    by_contra hnot
    have hunits := Nat.mul_le_mul_right den (Nat.not_lt.mp hnot)
    have hpos : 0 < den * place := Nat.mul_pos hden hplace
    linarith

-- ---------------------------------------------------------------------------
-- Reading
-- ---------------------------------------------------------------------------

theorem toLamports_maxSol : toLamports maxSol = maxLamports := by
  decide +kernel

theorem readAsSol_of_none {number : List Char} (h : readSol? number = some none) :
    readAsSol number = .error .zeroAmount := by
  simp [readAsSol, h, throw, throwThe, MonadExceptOf.throw]

theorem readAsSol_maxSol {number : List Char} (h : readSol? number = some (some maxSol)) :
    readAsSol number = .ok (UInt64.ofNat maxLamports) := by
  have hpasses : maxSol.magnitudeLt maxSol = false := by
    simp [Binary64.magnitudeLt]
  have hpositive : (maxSol.negative || maxSol.isZero) = false := rfl
  have hmost : maxLamports ≠ 0 := by
    decide
  simp only [readAsSol, h, hpositive, hpasses, toLamports_maxSol, hmost, Bool.false_eq_true,
    if_false]
  rfl

theorem readAsSol_of_maxSol_lt {number : List Char} {sol : Binary64}
    (h : readSol? number = some (some sol)) (hnegative : sol.negative = false)
    (hlt : maxSol.units < sol.units) : readAsSol number = .error .hugeAmount := by
  have hzero : sol.isZero = false := by
    refine beq_false_of_ne fun hsignificand => ?_
    rw [Binary64.units_eq sol, hsignificand, Nat.zero_mul] at hlt
    contradiction
  have hexceeds : maxSol.magnitudeLt sol = true := decide_eq_true hlt
  simp only [readAsSol, h, hnegative, hzero, hexceeds, Bool.or_self, Bool.false_eq_true, if_false,
    if_true]
  rfl

theorem readAsSol_excess {number : List Char} {d : Denoted} (hd : denoted? number = some d)
    (hlarge : 2 ^ 64 - 1 / 2 ≤ d.value * 10 ^ 9) :
    (9671406556917035 / 2 ^ 19 ≤ d.value →
      readAsSol number = .error .hugeAmount ∨ readAsSol number = .error .zeroAmount) ∧
    (d.value < 9671406556917035 / 2 ^ 19 →
      readAsSol number = .ok (UInt64.ofNat maxLamports)) := by
  have hread := readSol?_of_denoted hd
  obtain ⟨hnone, hbeyond⟩ | ⟨num, den, hden, hvalue, hratio⟩ :=
    Denoted.toBinary64_of_one_le (x := d) (by linarith)
  · rw [hnone] at hread
    refine ⟨fun _ => .inr (readAsSol_of_none hread), fun hlt => ?_⟩
    norm_num at hlt hbeyond
    linarith
  rw [hratio] at hread
  have hpos : (0 : ℚ) < den := by exact_mod_cast hden
  rw [hvalue] at hlarge ⊢
  rw [div_le_div_iff₀ (by norm_num) hpos, div_lt_div_iff₀ hpos (by norm_num)]
  constructor
  · intro hle
    have hmiddle : 9671406556917035 * den ≤ num * 2 ^ 19 := by exact_mod_cast hle
    cases hsol : Binary64.ofRatio false num den with
    | none =>
      rw [hsol] at hread
      exact .inr (readAsSol_of_none hread)
    | some sol =>
      rw [hsol] at hread
      exact .inl (readAsSol_of_maxSol_lt hread (Binary64.negative_ofRatio hsol)
        (maxSol_lt hsol hden hmiddle))
  · intro hlt
    have hmiddle : num * 2 ^ 19 < 9671406556917035 * den := by exact_mod_cast hlt
    have hlow : 2 ^ 65 * den ≤ 2 * 10 ^ 9 * num + den := by
      rw [div_mul_eq_mul_div, le_div_iff₀ hpos] at hlarge
      have hcast : (2 ^ 65 * den : ℚ) ≤ 2 * 10 ^ 9 * num + den := by linarith
      exact_mod_cast hcast
    rw [ofRatio_eq_maxSol hden hlow hmiddle] at hread
    exact readAsSol_maxSol hread

/-- A text of SOL for more than the greatest number of lamports is refused from the middle
between the largest amount and the next double on, 18446744073.7095546722412109375 SOL. What
is less than that, by up to 3057 lamports too much, is read as the greatest number. -/
theorem parse_excess {text : String} {number : List Char} {d : Denoted}
    (hsol : ReadsSol text.toList number) (hd : denoted? number = some d)
    (hlarge : 2 ^ 64 - 1 < round (d.value * 10 ^ 9)) :
    (9671406556917035 / 2 ^ 19 ≤ d.value →
      parse text = .error .hugeAmount ∨ parse text = .error .zeroAmount) ∧
    (d.value < 9671406556917035 / 2 ^ 19 → parse text = .ok 18446744073709551615) := by
  have hhalf : (2 : ℚ) ^ 64 - 1 / 2 ≤ d.value * 10 ^ 9 := by
    have hfloor : (2 : ℤ) ^ 64 ≤ ⌊d.value * 10 ^ 9 + 1 / 2⌋ := by
      rw [← round_eq]
      omega
    have := Int.le_floor.mp hfloor
    push_cast at this
    linarith
  rw [parse, hsol.parseChars_eq]
  exact readAsSol_excess hd hhalf

/-- The middle itself is refused. -/
theorem parse_excess_middle :
    ReadsSol "18446744073.7095546722412109375 SOL".toList
      "18446744073.7095546722412109375".toList ∧
    (parse "18446744073.7095546722412109375 SOL" = .error .hugeAmount ∨
      parse "18446744073.7095546722412109375 SOL" = .error .zeroAmount) := by
  have hsol : ReadsSol "18446744073.7095546722412109375 SOL".toList
      "18446744073.7095546722412109375".toList := .unit (by decide +kernel)
  have hd : denoted? "18446744073.7095546722412109375".toList =
      some ⟨false, 184467440737095546722412109375, -19⟩ := by
    decide +kernel
  have hvalue : Denoted.value ⟨false, 184467440737095546722412109375, -19⟩ =
      9671406556917035 / 2 ^ 19 := by
    norm_num [Denoted.value]
  refine ⟨hsol, (parse_excess hsol hd ?_).1 hvalue.ge⟩
  rw [hvalue, round_eq]
  norm_num

/-- One lamport more than the greatest number is read as the greatest number. -/
theorem parse_excess_shrinks :
    ∃ number d, ReadsSol "18446744073.709551616".toList number ∧ denoted? number = some d ∧
      round (d.value * 10 ^ 9) = 2 ^ 64 ∧
      parse "18446744073.709551616" = .ok 18446744073709551615 := by
  refine ⟨_, ⟨false, 18446744073709551616, -9⟩, .fractional (by decide +kernel)
    (by decide +kernel), by decide +kernel, ?_, by decide +kernel⟩
  norm_num [Denoted.value, round_eq]

end Amount

end SlotWallet
