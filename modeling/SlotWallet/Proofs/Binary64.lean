import Mathlib.Tactic.Linarith
import Mathlib.Tactic.Ring
import SlotWallet.Decimal.Binary64

/-!
# How far rounding goes

A quotient is rounded to a whole number of the places that its binade leaves, so its
double is a multiple of the last of them (`two_pow_dvd_units`) and at most half of it away
(`ofRatio_within`); for a quotient that is not subnormal this is one part in `2 ^ 53`
(`ofRatio_relative`). Everything is told in units of `2 ^ -1074`.
-/

namespace SlotWallet.Decimal

structure Within (e a b : Nat) : Prop where
  le : a ≤ b + e
  ge : b ≤ a + e

namespace Within

variable {a b e e' k : Nat}

theorem mono (h : Within e a b) (he : e ≤ e') : Within e' a b :=
  ⟨h.le.trans (Nat.add_le_add_left he b), h.ge.trans (Nat.add_le_add_left he a)⟩

theorem mul_left (h : Within e a b) (k : Nat) : Within (k * e) (k * a) (k * b) := by
  constructor
  · rw [← Nat.mul_add]
    exact Nat.mul_le_mul_left k h.le
  · rw [← Nat.mul_add]
    exact Nat.mul_le_mul_left k h.ge

theorem of_mul_left (h : Within (k * e) (k * a) (k * b)) (hk : 0 < k) : Within e a b := by
  obtain ⟨hle, hge⟩ := h
  rw [← Nat.mul_add] at hle hge
  exact ⟨Nat.le_of_mul_le_mul_left hle hk, Nat.le_of_mul_le_mul_left hge hk⟩

end Within

namespace Binary64

theorem unitsPerOne_eq_mul {k j : Nat} (h : k + j = 1074) : unitsPerOne = 2 ^ k * 2 ^ j := by
  rw [← Nat.pow_add, h]
  unfold unitsPerOne
  -- as a variable, so that the power is not computed
  generalize 1074 = places
  exact Nat.one_shiftLeft places

theorem two_pow_add_places (k : Nat) : 2 ^ (k + 1074) = 2 ^ k * unitsPerOne := by
  unfold unitsPerOne
  generalize 1074 = places
  rw [Nat.one_shiftLeft, Nat.pow_add]

theorem unitsPerOne_pos : 0 < unitsPerOne := by
  unfold unitsPerOne
  generalize 1074 = places
  rw [Nat.one_shiftLeft]
  exact Nat.two_pow_pos places

theorem units_eq (x : Binary64) : x.units = x.significand * 2 ^ x.shift := Nat.shiftLeft_eq _ _

theorem floorMagnitude_eq {x : Binary64} {n : Nat} (hle : n * unitsPerOne ≤ x.units)
    (hlt : x.units < n * unitsPerOne + unitsPerOne) : x.floorMagnitude = n := by
  refine Nat.div_eq_of_lt_le hle ?_
  rwa [Nat.add_mul, Nat.one_mul]

-- ---------------------------------------------------------------------------
-- Whole numbers
-- ---------------------------------------------------------------------------

section Rounding

variable {num den m c : Nat}

theorem roundHalfEven_mul_right (num den : Nat) (hc : 0 < c) :
    roundHalfEven (num * c) (den * c) = roundHalfEven num den := by
  have hlt : ∀ a b, a * c < b * c ↔ a < b := fun a b => Nat.mul_lt_mul_right hc
  simp only [roundHalfEven, Nat.mul_div_mul_right _ _ hc, Nat.mul_mod_mul_right, ← Nat.mul_assoc,
    hlt]

theorem roundHalfEven_eq (hden : 0 < den) (hlow : 2 * m * den < 2 * num + den)
    (hhigh : 2 * num < 2 * m * den + den) : roundHalfEven num den = m := by
  obtain ⟨hle, hge⟩ := roundHalfEven_near num den hden
  generalize roundHalfEven num den = r at hle hge
  have hlt : 2 * r * den < (2 * m + 2) * den := by linarith
  have hgt : 2 * m * den < (2 * r + 2) * den := by linarith
  replace hlt := Nat.lt_of_mul_lt_mul_right hlt
  replace hgt := Nat.lt_of_mul_lt_mul_right hgt
  omega

theorem lt_roundHalfEven (hden : 0 < den) (hodd : m % 2 = 1) (h : 2 * m * den + den ≤ 2 * num) :
    m < roundHalfEven num den := by
  have hdiv := Nat.div_add_mod num den
  have hmod := Nat.mod_lt num hden
  have hle : m ≤ num / den := (Nat.le_div_iff_mul_le hden).mpr (by linarith)
  unfold roundHalfEven
  dsimp only
  obtain rfl | hlt := Nat.eq_or_lt_of_le hle
  · rw [Nat.mul_comm den, Nat.mul_comm] at hdiv
    have hhalf : den ≤ 2 * (num % den) := by linarith
    rw [if_neg (Nat.not_lt.mpr hhalf), hodd]
    split <;> simp
  · split_ifs <;> omega

end Rounding

-- ---------------------------------------------------------------------------
-- Places
-- ---------------------------------------------------------------------------

/-- How many places of a number of units are lost where 53 bits of it are kept. -/
def lostPlaces (q : Nat) : Nat := q.log2 - 52

theorem lostPlaces_le_iff {q k : Nat} : lostPlaces q ≤ k ↔ q < 2 ^ (53 + k) := by
  unfold lostPlaces
  by_cases h : q = 0
  · subst h
    simp
  · rw [show q.log2 - 52 ≤ k ↔ q.log2 < 53 + k by omega]
    exact Nat.log2_lt h

theorem le_lostPlaces {q k : Nat} (h : 2 ^ (52 + k) ≤ q) : k ≤ lostPlaces q := by
  have hlt := Nat.lt_of_le_of_lt h (lostPlaces_le_iff.mp (Nat.le_refl _))
  have hexp := (Nat.pow_lt_pow_iff_right (by decide)).mp hlt
  omega

theorem two_pow_lostPlaces_le {q : Nat} (h : 2 ^ 52 ≤ q) : 2 ^ (52 + lostPlaces q) ≤ q := by
  have hne : q ≠ 0 := by
    rintro rfl
    contradiction
  have hlog : 52 ≤ q.log2 := (Nat.le_log2 hne).mpr h
  rw [lostPlaces, Nat.add_sub_cancel' hlog]
  exact Nat.log2_self_le hne

-- ---------------------------------------------------------------------------
-- Quotients
-- ---------------------------------------------------------------------------

variable {negative : Bool} {num den k j : Nat} {x : Binary64}

theorem ofRatio_eq (negative : Bool) (num den : Nat) :
    ofRatio negative num den =
      let s := lostPlaces (num * unitsPerOne / den)
      let rounded := roundHalfEven (num * unitsPerOne) (den * 2 ^ s)
      let x : Binary64 :=
        if rounded = 2 ^ 53 then ⟨negative, 2 ^ 52, s + 1⟩ else ⟨negative, rounded, s⟩
      if x.shift ≤ maxShift then some x else none := by
  have hplaces : (if num * unitsPerOne / den < 2 * leastNormal then 0
      else (num * unitsPerOne / den).log2 - 52) = lostPlaces (num * unitsPerOne / den) := by
    split
    · rename_i hlt
      exact (Nat.le_zero.mp (lostPlaces_le_iff.mpr hlt)).symm
    · rfl
  rw [ofRatio]
  simp only [hplaces, Nat.shiftLeft_eq]
  rfl

/-- The units of a rounded quotient. A quotient that rounds to a bit more than there are
bits to keep has as many units in the next binade. -/
theorem units_ofRatio (h : ofRatio negative num den = some x) :
    x.units = roundHalfEven (num * unitsPerOne)
        (den * 2 ^ lostPlaces (num * unitsPerOne / den)) *
      2 ^ lostPlaces (num * unitsPerOne / den) := by
  rw [ofRatio_eq] at h
  dsimp only at h
  generalize lostPlaces (num * unitsPerOne / den) = s at h ⊢
  obtain ⟨-, hx⟩ := Option.ite_none_right_eq_some.mp h
  cases hx
  rw [units_eq]
  split
  · rename_i hrounded
    rw [hrounded]
    ring
  · rfl

theorem ofRatio_within_places (h : ofRatio negative num den = some x) (hden : 0 < den) :
    Within (den * 2 ^ lostPlaces (num * unitsPerOne / den)) (2 * (x.units * den))
      (2 * (num * unitsPerOne)) := by
  rw [units_ofRatio h]
  generalize lostPlaces (num * unitsPerOne / den) = s
  obtain ⟨hle, hge⟩ := roundHalfEven_near (num * unitsPerOne) (den * 2 ^ s)
    (Nat.mul_pos hden (Nat.two_pow_pos s))
  have hunits : ∀ r, r * 2 ^ s * den = r * (den * 2 ^ s) := fun r => by ring
  rw [hunits]
  exact ⟨hle, hge⟩

theorem lostPlaces_le (hden : 0 < den) (hlt : num < den * 2 ^ k) :
    lostPlaces (num * unitsPerOne / den) ≤ k + 1021 := by
  rw [lostPlaces_le_iff, Nat.div_lt_iff_lt_mul hden]
  calc num * unitsPerOne
      < den * 2 ^ k * unitsPerOne := Nat.mul_lt_mul_of_pos_right hlt unitsPerOne_pos
    _ = 2 ^ (53 + (k + 1021)) * den := by
      rw [show 53 + (k + 1021) = k + 1074 by omega, two_pow_add_places]
      ring

theorem ofRatio_within (h : ofRatio negative num den = some x) (hden : 0 < den)
    (hlt : num < den * 2 ^ k) (hk : k + j = 54) :
    Within (den * unitsPerOne) (2 ^ j * (x.units * den)) (2 ^ j * (num * unitsPerOne)) := by
  have hplaces : 2 ^ lostPlaces (num * unitsPerOne / den) ≤ 2 ^ (k + 1021) :=
    Nat.pow_le_pow_right (by decide) (lostPlaces_le hden hlt)
  have hbound : 2 ^ 53 * (den * 2 ^ lostPlaces (num * unitsPerOne / den)) ≤
      2 ^ k * (den * unitsPerOne) := by
    calc 2 ^ 53 * (den * 2 ^ lostPlaces (num * unitsPerOne / den))
        ≤ 2 ^ 53 * (den * 2 ^ (k + 1021)) := by gcongr
      _ = den * 2 ^ (53 + (k + 1021)) := by rw [Nat.mul_left_comm, ← Nat.pow_add]
      _ = 2 ^ k * (den * unitsPerOne) := by
        rw [show 53 + (k + 1021) = k + 1074 by omega, two_pow_add_places]
        ring
  have hsplit : 2 ^ 53 * 2 = 2 ^ k * 2 ^ j := by
    rw [← Nat.pow_add, hk, ← Nat.pow_succ]
  have hnear := ((ofRatio_within_places h hden).mul_left (2 ^ 53)).mono hbound
  rw [← Nat.mul_assoc _ 2, ← Nat.mul_assoc _ 2, hsplit, Nat.mul_assoc _ (2 ^ j),
    Nat.mul_assoc _ (2 ^ j)] at hnear
  exact hnear.of_mul_left (Nat.two_pow_pos k)

theorem ofRatio_relative (h : ofRatio negative num den = some x) (hden : 0 < den)
    (hnormal : den * 2 ^ 52 ≤ num * unitsPerOne) :
    Within (num * unitsPerOne) (2 ^ 53 * (x.units * den)) (2 ^ 53 * (num * unitsPerOne)) := by
  have hq : 2 ^ 52 ≤ num * unitsPerOne / den :=
    (Nat.le_div_iff_mul_le hden).mpr (by rwa [Nat.mul_comm])
  have hbound : 2 ^ 52 * (den * 2 ^ lostPlaces (num * unitsPerOne / den)) ≤ num * unitsPerOne := by
    calc 2 ^ 52 * (den * 2 ^ lostPlaces (num * unitsPerOne / den))
        = 2 ^ (52 + lostPlaces (num * unitsPerOne / den)) * den := by ring
      _ ≤ num * unitsPerOne / den * den := Nat.mul_le_mul_right den (two_pow_lostPlaces_le hq)
      _ ≤ num * unitsPerOne := Nat.div_mul_le_self _ _
  have hnear := (ofRatio_within_places h hden).mul_left (2 ^ 52)
  rw [← Nat.mul_assoc _ 2, ← Nat.mul_assoc _ 2] at hnear
  exact hnear.mono hbound

theorem le_lostPlaces_of_le (hden : 0 < den) (hle : den * 2 ^ k ≤ num) :
    k + 1022 ≤ lostPlaces (num * unitsPerOne / den) := by
  refine le_lostPlaces ((Nat.le_div_iff_mul_le hden).mpr ?_)
  calc 2 ^ (52 + (k + 1022)) * den
      = den * 2 ^ k * unitsPerOne := by
        rw [show 52 + (k + 1022) = k + 1074 by omega, two_pow_add_places]
        ring
    _ ≤ num * unitsPerOne := Nat.mul_le_mul_right unitsPerOne hle

/-- From `2 ^ k` on a rounded quotient is a multiple of the last place there. -/
theorem two_pow_dvd_units (h : ofRatio negative num den = some x) (hden : 0 < den)
    (hle : den * 2 ^ k ≤ num) : 2 ^ (k + 1022) ∣ x.units := by
  rw [units_ofRatio h]
  exact (Nat.pow_dvd_pow 2 (le_lostPlaces_of_le hden hle)).trans (Nat.dvd_mul_left _ _)

theorem roundHalfEven_places (num den : Nat) (hj : k + j = 1074) :
    roundHalfEven (num * unitsPerOne) (den * 2 ^ (k)) =
      roundHalfEven (num * 2 ^ j) den := by
  have hscaled : num * unitsPerOne = num * 2 ^ j * 2 ^ (k) := by
    rw [unitsPerOne_eq_mul hj, Nat.mul_comm (2 ^ _), Nat.mul_assoc]
  rw [hscaled, roundHalfEven_mul_right _ _ (Nat.two_pow_pos _)]

section Binade

variable (hden : 0 < den) (hle : den * 2 ^ k ≤ num) (hlt : num < den * 2 ^ (k + 1))

include hden hle hlt

theorem lostPlaces_eq : lostPlaces (num * unitsPerOne / den) = k + 1022 := by
  have hupper := lostPlaces_le hden hlt
  have hlower := le_lostPlaces_of_le hden hle
  omega

theorem units_ofRatio_binade (hj : k + 1022 + j = 1074) (h : ofRatio negative num den = some x) :
    x.units = roundHalfEven (num * 2 ^ j) den * 2 ^ (k + 1022) := by
  rw [units_ofRatio h, lostPlaces_eq hden hle hlt, roundHalfEven_places _ _ hj]

theorem ofRatio_binade (hj : k + 1022 + j = 1074) {significand : Nat}
    (hrounded : roundHalfEven (num * 2 ^ j) den = significand) (hcarry : significand ≠ 2 ^ 53) :
    ofRatio negative num den = some ⟨negative, significand, k + 1022⟩ := by
  rw [ofRatio_eq, lostPlaces_eq hden hle hlt]
  dsimp only
  rw [roundHalfEven_places _ _ hj, hrounded, if_neg hcarry, if_pos]
  simp only [maxShift]
  omega

end Binade

theorem exists_ofRatio (negative : Bool) (hden : 0 < den) (hlt : num < den * 2 ^ k)
    (hk : k ≤ 1023) : ∃ x, ofRatio negative num den = some x := by
  have hplaces := lostPlaces_le hden hlt
  rw [ofRatio_eq]
  dsimp only
  generalize lostPlaces (num * unitsPerOne / den) = s at hplaces
  replace hplaces : s ≤ 2044 := by omega
  refine ⟨_, if_pos ?_⟩
  rw [maxShift]
  split
  · exact Nat.succ_le_succ hplaces
  · exact Nat.le_succ_of_le hplaces

theorem negative_ofRatio (h : ofRatio negative num den = some x) : x.negative = negative := by
  rw [ofRatio_eq] at h
  obtain ⟨-, hx⟩ := Option.ite_none_right_eq_some.mp h
  cases hx
  split <;> rfl

-- ---------------------------------------------------------------------------
-- Whole numbers of units
-- ---------------------------------------------------------------------------

/-- A double is what a whole number of units is rounded to. -/
def RoundedFrom (a : Nat) (x : Binary64) : Prop :=
  ∃ negative num den, 0 < den ∧ num * unitsPerOne = den * a ∧ ofRatio negative num den = some x

namespace RoundedFrom

variable {a : Nat}

theorem within (h : RoundedFrom a x) (hlt : a < 2 ^ k * unitsPerOne) (hk : k + j = 54) :
    Within unitsPerOne (2 ^ j * x.units) (2 ^ j * a) := by
  obtain ⟨negative, num, den, hden, ha, hx⟩ := h
  have hnum : num < den * 2 ^ k := by
    refine Nat.lt_of_mul_lt_mul_right (a := unitsPerOne) ?_
    rw [ha, Nat.mul_assoc]
    exact Nat.mul_lt_mul_of_pos_left hlt hden
  have hwithin := ofRatio_within hx hden hnum hk
  rw [ha, Nat.mul_comm x.units, Nat.mul_left_comm _ den, Nat.mul_left_comm _ den] at hwithin
  exact hwithin.of_mul_left hden

theorem relative (h : RoundedFrom a x) (hnormal : 2 ^ 52 ≤ a) :
    Within a (2 ^ 53 * x.units) (2 ^ 53 * a) := by
  obtain ⟨negative, num, den, hden, ha, hx⟩ := h
  have hwithin := ofRatio_relative hx hden (by rw [ha]; exact Nat.mul_le_mul_left den hnormal)
  rw [ha, Nat.mul_comm x.units, Nat.mul_left_comm _ den, Nat.mul_left_comm _ den] at hwithin
  exact hwithin.of_mul_left hden

theorem two_pow_dvd (h : RoundedFrom a x) (hle : 2 ^ k * unitsPerOne ≤ a) :
    2 ^ (k + 1022) ∣ x.units := by
  obtain ⟨negative, num, den, hden, ha, hx⟩ := h
  refine two_pow_dvd_units hx hden (Nat.le_of_mul_le_mul_right ?_ unitsPerOne_pos)
  rw [ha, Nat.mul_assoc]
  exact Nat.mul_le_mul_left den hle

end RoundedFrom

variable {y : Binary64}

theorem exists_mul (hlt : x.units * y.units < unitsPerOne * unitsPerOne * 2 ^ k) (hk : k ≤ 1023) :
    ∃ z, x.mul y = some z :=
  exists_ofRatio _ (Nat.mul_pos unitsPerOne_pos unitsPerOne_pos) hlt hk

theorem exists_addSameSign (hlt : x.units + y.units < unitsPerOne * 2 ^ k) (hk : k ≤ 1023) :
    ∃ z, x.addSameSign y = some z :=
  exists_ofRatio _ unitsPerOne_pos hlt hk

theorem roundedFrom_mul {z : Binary64} {n : Nat} (h : x.mul y = some z)
    (hy : y.units = n * unitsPerOne) : RoundedFrom (n * x.units) z := by
  refine ⟨_, _, _, Nat.mul_pos unitsPerOne_pos unitsPerOne_pos, ?_, h⟩
  rw [hy]
  ring

theorem roundedFrom_addSameSign {z : Binary64} (h : x.addSameSign y = some z) :
    RoundedFrom (x.units + y.units) z :=
  ⟨_, _, _, unitsPerOne_pos, Nat.mul_comm _ _, h⟩

end Binary64

end SlotWallet.Decimal
