import Mathlib.Data.List.TakeWhile
import Mathlib.Tactic.Linarith
import SlotWallet.Amount
import SlotWallet.Proofs.Binary64

/-!
# Amounts that are printed and read

An amount is printed exactly and read through three roundings: of the text, of its product
with a billion, and of the sum with one half. Below `2 ^ 51` lamports they all stay under
half a lamport together; above, the product is a multiple of half a lamport and hits the
amount itself while there are fewer than `2 ^ 22` SOL (`Rounded.toLamports_exact`). Beyond,
the error is one part in `2 ^ 51` (`Rounded.toLamports_within`).
-/

namespace SlotWallet

-- ---------------------------------------------------------------------------
-- Texts
-- ---------------------------------------------------------------------------

namespace Decimal

theorem isDigit_of_mem_padded {width n : Nat} {c : Char} (h : c ∈ padded width n) :
    c.isDigit = true := by
  rw [padded, List.mem_append] at h
  obtain hzero | hdigit := h
  · rw [List.eq_of_mem_replicate hzero]
    rfl
  · exact isDigit_of_mem_ofNat hdigit

theorem length_ofNat_le {n k : Nat} (hk : k ≠ 0) (h : n < 10 ^ k) : (ofNat n).length ≤ k := by
  induction k generalizing n with
  | zero => contradiction
  | succ k ih =>
    unfold ofNat
    split
    · exact Nat.succ_le_succ (Nat.zero_le k)
    · rename_i hten
      have hk' : k ≠ 0 := by
        rintro rfl
        exact hten h
      have hdiv := ih hk' (Nat.div_lt_of_lt_mul (by rwa [Nat.pow_succ, Nat.mul_comm] at h))
      rw [List.length_append, List.length_singleton]
      exact Nat.succ_le_succ hdiv

theorem length_padded {n k : Nat} (hk : k ≠ 0) (h : n < 10 ^ k) : (padded k n).length = k := by
  have hle := length_ofNat_le hk h
  simp only [padded, List.length_append, List.length_replicate]
  omega

theorem valueFrom_eq (upper : Nat) (digits : List Char) :
    valueFrom upper digits = upper * 10 ^ digits.length + value digits := by
  induction digits generalizing upper with
  | nil => simp [value, valueFrom]
  | cons c digits ih =>
    have hstep : ∀ from',
        valueFrom from' (c :: digits) = valueFrom (10 * from' + digitValue c) digits :=
      fun _ => rfl
    rw [value, hstep, hstep, ih, ih, List.length_cons]
    ring

theorem readSign_of_isDigit {c : Char} (rest : List Char) (h : c.isDigit = true) :
    readSign (c :: rest) = (false, c :: rest) := by
  have hminus : c ≠ '-' := by
    rintro rfl
    contradiction
  have hplus : c ≠ '+' := by
    rintro rfl
    contradiction
  simp [readSign, hminus, hplus]

theorem denoted?_point {whole fraction : List Char} (hwhole : whole ≠ [])
    (hdigits : ∀ c ∈ whole, c.isDigit = true) (hfraction : ∀ c ∈ fraction, c.isDigit = true) :
    denoted? (whole ++ '.' :: fraction) =
      some ⟨false, value (whole ++ fraction), 0 - fraction.length⟩ := by
  have hsign : readSign (whole ++ '.' :: fraction) = (false, whole ++ '.' :: fraction) := by
    cases whole with
    | nil => contradiction
    | cons c whole => exact readSign_of_isDigit _ (hdigits c List.mem_cons_self)
  have htake : (whole ++ '.' :: fraction).takeWhile Char.isDigit = whole := by
    rw [List.takeWhile_append_of_pos hdigits, List.takeWhile_cons_of_neg (by decide),
      List.append_nil]
  have hdrop : (whole ++ '.' :: fraction).dropWhile Char.isDigit = '.' :: fraction := by
    rw [List.dropWhile_append_of_pos hdigits, List.dropWhile_cons_of_neg (by decide)]
  have htake' : fraction.takeWhile Char.isDigit = fraction :=
    List.takeWhile_eq_self_iff.mpr hfraction
  have hdrop' : fraction.dropWhile Char.isDigit = [] := List.dropWhile_eq_nil_iff.mpr hfraction
  rw [denoted?, hsign]
  simp only [htake, hdrop, htake', hdrop', readExponent?, hwhole, false_and, if_false,
    Option.map_some]

theorem exists_head_of_denoted? {text : List Char} {d : Denoted} (h : denoted? text = some d) :
    ∃ c rest, (readSign text).2 = c :: rest ∧ (c.isDigit = true ∨ c = '.') := by
  unfold denoted? at h
  generalize readSign text = signed at h ⊢
  obtain ⟨negative, body⟩ := signed
  cases body with
  | nil => simp at h
  | cons c rest =>
    refine ⟨c, rest, rfl, ?_⟩
    by_contra hc
    rw [not_or] at hc
    obtain ⟨hdigit, hpoint⟩ := hc
    simp [hdigit, hpoint] at h

end Decimal

namespace Amount

open Decimal

def number (n : Nat) : List Char :=
  Decimal.ofNat (n / lamportsPerSol) ++ '.' :: padded 9 (n % lamportsPerSol)

theorem toList_format (lamports : UInt64) :
    (format lamports).toList = number lamports.toNat ++ [' ', 'S', 'O', 'L'] := by
  rw [format, String.toList_ofList, number]
  simp only [List.append_assoc, List.cons_append, List.nil_append]

theorem isDigit_of_mem_number {n : Nat} {c : Char} (h : c ∈ number n) :
    c.isDigit = true ∨ c = '.' := by
  rw [number, List.mem_append, List.mem_cons] at h
  obtain hwhole | rfl | hfraction := h
  · exact .inl (isDigit_of_mem_ofNat hwhole)
  · exact .inr rfl
  · exact .inl (isDigit_of_mem_padded hfraction)

theorem isBlank_of_isDigit {c : Char} (h : c.isDigit = true) : Text.isBlank c = false := by
  obtain ⟨hle, hge⟩ := Char.isDigit_iff_toNat.mp h
  change 48 ≤ c.toNat at hle
  change c.toNat ≤ 57 at hge
  simp only [Text.isBlank, Bool.or_eq_false_iff, Bool.and_eq_false_imp, decide_eq_true_eq,
    decide_eq_false_iff_not, beq_eq_false_iff_ne]
  omega

theorem isBlank_of_mem_number {n : Nat} {c : Char} (h : c ∈ number n) : Text.isBlank c = false := by
  obtain hdigit | rfl := isDigit_of_mem_number h
  · exact isBlank_of_isDigit hdigit
  · rfl

theorem exists_number_eq_cons (n : Nat) : ∃ c rest, number n = c :: rest ∧ c.isDigit = true := by
  obtain ⟨c, rest, hwhole⟩ := List.exists_cons_of_ne_nil (ofNat_ne_nil (n / lamportsPerSol))
  refine ⟨c, rest ++ '.' :: padded 9 (n % lamportsPerSol), ?_, ?_⟩
  · rw [number, hwhole, List.cons_append]
  · refine isDigit_of_mem_ofNat (n := n / lamportsPerSol) ?_
    rw [hwhole]
    exact List.mem_cons_self

theorem trim_format (n : Nat) :
    Text.trim (number n ++ [' ', 'S', 'O', 'L']) = number n ++ [' ', 'S', 'O', 'L'] := by
  obtain ⟨c, rest, hcons, hdigit⟩ := exists_number_eq_cons n
  rw [Text.trim, hcons, List.cons_append, Text.trimStart_eq_self (isBlank_of_isDigit hdigit)]
  have hlast := Text.trimEnd_append_singleton (c :: rest ++ [' ', 'S', 'O'])
    (show Text.isBlank 'L' = false by decide)
  rwa [List.append_assoc] at hlast

theorem trimEnd_number_blank (n : Nat) : Text.trimEnd (number n ++ [' ']) = number n := by
  have hreverse : (number n).reverse.dropWhile Text.isBlank = (number n).reverse := by
    refine List.dropWhile_eq_self_iff.mpr fun hpos => ?_
    rw [isBlank_of_mem_number (List.mem_reverse.mp (List.getElem_mem hpos))]
    exact Bool.false_ne_true
  rw [Text.trimEnd, List.reverse_append, List.reverse_singleton, List.singleton_append,
    List.dropWhile_cons_of_pos (by decide), hreverse, List.reverse_reverse]

theorem stripUnit_append (front : List Char) {unit : List Char} (hsize : Text.utf8Length unit = 3)
    (hunit : Text.sameLetters unit ['s', 'o', 'l'] = true) :
    stripUnit (front ++ unit) = some (Text.trimEnd front) := by
  have hsplit : Text.splitAtByte? (Text.utf8Length (front ++ unit) - 3) (front ++ unit) =
      some (front, unit) := Text.splitAtByte?_eq_some.mpr ⟨rfl, by simp [hsize]⟩
  rw [stripUnit, hsplit]
  exact if_pos hunit

theorem stripUnit_format (n : Nat) :
    stripUnit (number n ++ [' ', 'S', 'O', 'L']) = some (number n) := by
  have hsplit : number n ++ [' ', 'S', 'O', 'L'] = (number n ++ [' ']) ++ ['S', 'O', 'L'] := by
    simp
  rw [hsplit, stripUnit_append _ (by decide) (by decide), trimEnd_number_blank]

theorem value_number (n : Nat) :
    value (Decimal.ofNat (n / lamportsPerSol) ++ padded 9 (n % lamportsPerSol)) = n := by
  have hlength : (padded 9 (n % lamportsPerSol)).length = 9 :=
    length_padded (by decide) (Nat.mod_lt n (by decide))
  rw [value, valueFrom_append, ← value, value_ofNat, valueFrom_eq, hlength, value_padded]
  exact Nat.div_add_mod' n lamportsPerSol

theorem denoted?_number (n : Nat) : denoted? (number n) = some ⟨false, n, -9⟩ := by
  have hlength : (padded 9 (n % lamportsPerSol)).length = 9 :=
    length_padded (by decide) (Nat.mod_lt n (by decide))
  rw [number, denoted?_point (ofNat_ne_nil _) (fun _ => isDigit_of_mem_ofNat)
    (fun _ => isDigit_of_mem_padded), value_number, hlength]
  rfl

theorem readSol?_of_denoted {text : List Char} {d : Denoted} (h : denoted? text = some d) :
    readSol? text = some d.toBinary64 := by
  obtain ⟨c, rest, hbody, hc⟩ := exists_head_of_denoted? h
  have hlower : Text.asciiLower c = c := by
    obtain hdigit | rfl := hc
    · obtain ⟨-, hle⟩ := Char.isDigit_iff_toNat.mp hdigit
      change c.toNat ≤ 57 at hle
      rw [Text.asciiLower, if_neg (by omega)]
    · rfl
  have hwords : ∀ w ∈ ["inf", "infinity", "nan"],
      ((w.toList.map Text.asciiLower).head?.all fun a => !a.isDigit && a != '.') = true := by
    decide +kernel
  have hword : ["inf", "infinity", "nan"].any
      (fun w => Text.sameLetters (readSign text).2 w.toList) = false := by
    refine List.any_eq_false.mpr fun w hw hsame => ?_
    have hhead := congrArg List.head? (eq_of_beq hsame)
    rw [hbody, List.map_cons, List.head?_cons, hlower] at hhead
    have hfirst := hwords w hw
    rw [← hhead] at hfirst
    obtain hdigit | rfl := hc
    · simp [hdigit] at hfirst
    · simp at hfirst
  simp only [readSol?, hword, Bool.false_eq_true, if_false, h, Option.map_some]

theorem readSol?_number {n : Nat} (h : n ≠ 0) :
    readSol? (number n) = some (Binary64.ofRatio false n lamportsPerSol) := by
  have htiny : ¬n.log2 + 400 < 8 + 1 := by omega
  have hdenoted : Denoted.toBinary64 ⟨false, n, -9⟩ = Binary64.ofRatio false n lamportsPerSol := by
    rw [Denoted.toBinary64, if_neg h]
    exact if_neg htiny
  rw [readSol?_of_denoted (denoted?_number n), hdenoted]

-- ---------------------------------------------------------------------------
-- Roundings
-- ---------------------------------------------------------------------------

open Binary64 (unitsPerOne unitsPerOne_pos)

theorem units_billion : billion.units = 1000000000 * unitsPerOne := by decide +kernel

theorem units_half : 2 * half.units = unitsPerOne := by decide +kernel

theorem units_maxSol : maxSol.units = 2 ^ (34 + 1022) * 4835703278458517 := by decide +kernel

/-- Stated of the function, since one of its values would be checked by computing. -/
theorem toLamports_def :
    toLamports = fun sol => match (sol.mul billion).bind (·.addSameSign half) with
      | some x => min x.floorMagnitude maxLamports
      | none => maxLamports := by
  delta toLamports
  exact rfl

theorem unitsPerOne_le {n : Nat} (hn : n ≠ 0) :
    1000000000 * 2 ^ 53 ≤ unitsPerOne ∧ unitsPerOne ≤ n * unitsPerOne := by
  have hlarge : 1000000000 * 2 ^ 53 ≤ unitsPerOne := by decide +kernel
  exact ⟨hlarge, Nat.le_mul_of_pos_left _ (Nat.pos_of_ne_zero hn)⟩

theorem sol_relative {n : Nat} {sol : Binary64} (hn : n ≠ 0)
    (h : Binary64.ofRatio false n lamportsPerSol = some sol) :
    Within (n * unitsPerOne) (2 ^ 53 * (1000000000 * sol.units))
      (2 ^ 53 * (n * unitsPerOne)) := by
  obtain ⟨hlarge, hone⟩ := unitsPerOne_le hn
  have hrelative := Binary64.ofRatio_relative h (by decide) (by rw [lamportsPerSol]; omega)
  rwa [Nat.mul_comm sol.units] at hrelative

/-- What an amount is rounded to where it is read: as SOL, as lamports, and with one half
of a lamport more. -/
structure Rounded (n : Nat) (sol product sum : Binary64) : Prop where
  sol_eq : Binary64.ofRatio false n lamportsPerSol = some sol
  product_eq : sol.mul billion = some product
  sum_eq : product.addSameSign half = some sum

namespace Rounded

variable {n k j : Nat} {sol product sum : Binary64}

theorem within_sol (h : Rounded n sol product sum) (hlt : n < 1000000000 * 2 ^ k)
    (hk : k + j = 54) :
    Within (1000000000 * unitsPerOne) (2 ^ j * (1000000000 * sol.units))
      (2 ^ j * (n * unitsPerOne)) := by
  have hwithin := Binary64.ofRatio_within h.sol_eq (by decide) hlt hk
  rwa [Nat.mul_comm sol.units] at hwithin

theorem roundedFrom_product (h : Rounded n sol product sum) :
    Binary64.RoundedFrom (1000000000 * sol.units) product :=
  Binary64.roundedFrom_mul h.product_eq units_billion

theorem roundedFrom_sum (h : Rounded n sol product sum) :
    Binary64.RoundedFrom (product.units + half.units) sum :=
  Binary64.roundedFrom_addSameSign h.sum_eq

/-- Below `2 ^ 51` all three errors together stay under half a lamport. -/
theorem floor_of_lt (h : Rounded n sol product sum) (hlt : n < 2 ^ 51) :
    sum.floorMagnitude = n := by
  have hunit := unitsPerOne_pos
  have hhalf := units_half
  have hn : (n + 1) * unitsPerOne ≤ 2 ^ 51 * unitsPerOne := Nat.mul_le_mul_right _ hlt
  rw [Nat.add_mul, Nat.one_mul] at hn
  obtain ⟨hsol, hsol'⟩ := h.within_sol (k := 22) (j := 32) (hlt.trans (by decide)) rfl
  obtain ⟨hproduct, hproduct'⟩ := h.roundedFrom_product.within (k := 51) (j := 3)
    (by omega) rfl
  obtain ⟨hsum, hsum'⟩ := h.roundedFrom_sum.within (k := 51) (j := 3) (by omega) rfl
  exact Binary64.floorMagnitude_eq (by omega) (by omega)

/-- From there on the product is a multiple of half a lamport, so it is the amount itself
while the SOL are below `2 ^ 22`. -/
theorem product_of_lt (h : Rounded n sol product sum) (hle : 2 ^ 51 < n)
    (hlt : n < 1000000000 * 2 ^ 22) : product.units = n * unitsPerOne := by
  have hunit := unitsPerOne_pos
  have hn : (2 ^ 51 + 1) * unitsPerOne ≤ n * unitsPerOne := Nat.mul_le_mul_right _ hle
  have hn' : n * unitsPerOne ≤ 1000000000 * 2 ^ 22 * unitsPerOne :=
    Nat.mul_le_mul_right _ hlt.le
  obtain ⟨hsol, hsol'⟩ := h.within_sol (k := 22) (j := 32) hlt rfl
  obtain ⟨c, hc⟩ := h.roundedFrom_product.two_pow_dvd (k := 51) (by omega)
  obtain ⟨hproduct, hproduct'⟩ := h.roundedFrom_product.within (k := 52) (j := 2)
    (by omega) rfl
  have hhalves : unitsPerOne = 2 ^ (51 + 1022) * 2 ^ 1 := Binary64.unitsPerOne_eq_mul rfl
  have habove : 2 * product.units < 2 * (n * unitsPerOne) + unitsPerOne := by omega
  have hbelow : 2 * (n * unitsPerOne) < 2 * product.units + unitsPerOne := by omega
  rw [hc, hhalves] at habove hbelow
  rw [hc, hhalves]
  generalize 2 ^ (51 + 1022) = half at habove hbelow
  have hc_lt : c < 2 * n + 1 := Nat.lt_of_mul_lt_mul_left (a := half) (by linarith)
  have hc_gt : 2 * n < c + 1 := Nat.lt_of_mul_lt_mul_left (a := half) (by linarith)
  obtain rfl : c = 2 * n := by omega
  ring

theorem floor_of_mid (h : Rounded n sol product sum) (hle : 2 ^ 51 < n)
    (hlt : n < 1000000000 * 2 ^ 22) : sum.floorMagnitude = n := by
  have hunit := unitsPerOne_pos
  have hhalf := units_half
  have hn : (n + 1) * unitsPerOne ≤ 2 ^ 52 * unitsPerOne :=
    Nat.mul_le_mul_right _ (hlt.trans (by decide))
  rw [Nat.add_mul, Nat.one_mul] at hn
  have hproduct := h.product_of_lt hle hlt
  obtain ⟨hsum, hsum'⟩ := h.roundedFrom_sum.within (k := 52) (j := 2)
    (by rw [hproduct]; omega) rfl
  rw [hproduct] at hsum hsum'
  exact Binary64.floorMagnitude_eq (by omega) (by omega)

theorem units_within (h : Rounded n sol product sum) (hn : n ≠ 0) :
    2 ^ 51 * sum.units ≤ (2 ^ 51 + 1) * (n * unitsPerOne) + 2 ^ 51 * unitsPerOne ∧
      2 ^ 51 * (n * unitsPerOne) ≤ 2 ^ 51 * sum.units + n * unitsPerOne := by
  have hhalf := units_half
  obtain ⟨hlarge, hone⟩ := unitsPerOne_le hn
  obtain ⟨hsol, hsol'⟩ := sol_relative hn h.sol_eq
  obtain ⟨hproduct, hproduct'⟩ := h.roundedFrom_product.relative (by omega)
  obtain ⟨hsum, hsum'⟩ := h.roundedFrom_sum.relative (by omega)
  constructor
  · linarith
  · linarith

/-- What is read of an amount is within a lamport and one part in `2 ^ 51` of it. -/
theorem floor_within (h : Rounded n sol product sum) (hn : n ≠ 0) :
    sum.floorMagnitude ≤ n + 1 + n / 2 ^ 51 ∧ n ≤ sum.floorMagnitude + 1 + n / 2 ^ 51 := by
  obtain ⟨hle, hge⟩ := h.units_within hn
  have hfloor : sum.floorMagnitude * unitsPerOne ≤ sum.units := Nat.div_mul_le_self _ _
  have hceil : sum.units < sum.floorMagnitude * unitsPerOne + unitsPerOne :=
    Nat.lt_div_mul_add unitsPerOne_pos
  have hupper : 2 ^ 51 * sum.floorMagnitude ≤ (2 ^ 51 + 1) * n + 2 ^ 51 :=
    Nat.le_of_mul_le_mul_right (by linarith) unitsPerOne_pos
  have hlower : 2 ^ 51 * n ≤ 2 ^ 51 * sum.floorMagnitude + n + 2 ^ 51 :=
    Nat.le_of_mul_le_mul_right (by linarith) unitsPerOne_pos
  omega

theorem toLamports_eq (h : Rounded n sol product sum) :
    toLamports sol = min sum.floorMagnitude maxLamports := by
  rw [toLamports_def]
  beta_reduce
  rw [h.product_eq, Option.bind_some, h.sum_eq]

/-- No amount is more SOL than the most there can be. From `2 ^ 34` on both are multiples
of the same place, so it is enough that they are closer than that. -/
theorem units_le_maxSol (h : Rounded n sol product sum) (hlt : n < 2 ^ 64) :
    sol.units ≤ maxSol.units := by
  have hplaces : unitsPerOne = 2 ^ (34 + 1022) * 2 ^ 18 := Binary64.unitsPerOne_eq_mul rfl
  rw [units_maxSol]
  by_cases hsmall : n < 1000000000 * 2 ^ 34
  · obtain ⟨hsol, -⟩ := h.within_sol (k := 34) (j := 20) hsmall rfl
    have hn : n * unitsPerOne ≤ 1000000000 * 2 ^ 34 * unitsPerOne :=
      Nat.mul_le_mul_right _ hsmall.le
    rw [hplaces] at hsol hn
    generalize 2 ^ (34 + 1022) = place at hsol hn ⊢
    linarith
  · obtain ⟨c, hc⟩ := Binary64.two_pow_dvd_units h.sol_eq (by decide) (Nat.not_lt.mp hsmall)
    obtain ⟨hsol, -⟩ := h.within_sol (k := 35) (j := 19) (hlt.trans (by decide)) rfl
    have hpos : 0 < 2 ^ (34 + 1022) := by positivity
    rw [hc, hplaces] at hsol
    rw [hc]
    generalize 2 ^ (34 + 1022) = place at hsol hpos ⊢
    have hc_le : 2 ^ 19 * (1000000000 * c) ≤ 2 ^ 19 * (n * 2 ^ 18) + 1000000000 * 2 ^ 18 :=
      Nat.le_of_mul_le_mul_left (by linarith) hpos
    exact Nat.mul_le_mul_left place (by omega)

theorem toLamports_exact (h : Rounded n sol product sum) (hlt : n < 1000000000 * 2 ^ 22)
    (hne : n ≠ 2 ^ 51) : toLamports sol = n := by
  have hfloor : sum.floorMagnitude = n := by
    obtain hsmall | hlarge := Nat.lt_or_gt_of_ne hne
    · exact h.floor_of_lt hsmall
    · exact h.floor_of_mid hlarge hlt
  rw [h.toLamports_eq, hfloor]
  exact Nat.min_eq_left (hlt.le.trans (by decide))

theorem toLamports_within (h : Rounded n sol product sum) (hn : n ≠ 0) (hle : n ≤ maxLamports) :
    toLamports sol ≤ n + 1 + n / 2 ^ 51 ∧ n ≤ toLamports sol + 1 + n / 2 ^ 51 := by
  obtain ⟨hupper, hlower⟩ := h.floor_within hn
  rw [h.toLamports_eq]
  omega

end Rounded

theorem exists_rounded {n : Nat} (hn : n ≠ 0) (hlt : n < 2 ^ 64) :
    ∃ sol product sum, Rounded n sol product sum := by
  have hhalf := units_half
  obtain ⟨hlarge, hone⟩ := unitsPerOne_le hn
  have hn' : n * unitsPerOne ≤ 2 ^ 64 * unitsPerOne := Nat.mul_le_mul_right _ hlt.le
  have hsmall : n < 1000000000 * 2 ^ 64 := hlt.trans (by decide)
  obtain ⟨sol, hsol⟩ := Binary64.exists_ofRatio false (by decide) hsmall (by decide)
  obtain ⟨hupper, hlower⟩ := sol_relative hn hsol
  have hsol_lt : 1000000000 * sol.units < 2 ^ 65 * unitsPerOne := by omega
  have hmul : sol.units * billion.units < unitsPerOne * unitsPerOne * 2 ^ 65 := by
    calc sol.units * billion.units
        = 1000000000 * sol.units * unitsPerOne := by rw [units_billion]; ring
      _ < 2 ^ 65 * unitsPerOne * unitsPerOne := Nat.mul_lt_mul_of_pos_right hsol_lt unitsPerOne_pos
      _ = unitsPerOne * unitsPerOne * 2 ^ 65 := by ring
  obtain ⟨product, hproduct⟩ := Binary64.exists_mul hmul (by decide)
  have hrounded := Binary64.roundedFrom_mul hproduct units_billion
  obtain ⟨hupper', -⟩ := hrounded.relative (by omega)
  obtain ⟨sum, hsum⟩ := Binary64.exists_addSameSign (x := product) (y := half) (k := 67)
    (by omega) (by decide)
  exact ⟨sol, product, sum, hsol, hproduct, hsum⟩

-- ---------------------------------------------------------------------------
-- Printing and reading
-- ---------------------------------------------------------------------------

theorem readAsSol_number {n : Nat} {sol product sum : Binary64} (h : Rounded n sol product sum)
    (hn : n ≠ 0) (hlt : n < 2 ^ 64) (hpos : toLamports sol ≠ 0) :
    readAsSol (number n) = .ok (UInt64.ofNat (toLamports sol)) := by
  have hnegative : sol.negative = false := Binary64.negative_ofRatio h.sol_eq
  have hzero : sol.isZero = false := by
    refine beq_false_of_ne fun hsignificand => ?_
    obtain ⟨hlarge, hone⟩ := unitsPerOne_le hn
    obtain ⟨-, hlower⟩ := sol_relative hn h.sol_eq
    rw [Binary64.units_eq, hsignificand, Nat.zero_mul] at hlower
    omega
  have hmax : maxSol.magnitudeLt sol = false :=
    decide_eq_false (Nat.not_lt.mpr (h.units_le_maxSol hlt))
  rw [readAsSol, readSol?_number hn, h.sol_eq]
  simp only [hnegative, hzero, hmax, Bool.or_self, Bool.false_eq_true, if_false, hpos]
  rfl

theorem parse_format_eq {lamports : UInt64} {sol product sum : Binary64}
    (h : Rounded lamports.toNat sol product sum) (hn : lamports.toNat ≠ 0)
    (hpos : toLamports sol ≠ 0) :
    parse (format lamports) = .ok (UInt64.ofNat (toLamports sol)) := by
  have hne : number lamports.toNat ++ [' ', 'S', 'O', 'L'] ≠ [] :=
    List.append_ne_nil_of_right_ne_nil _ (List.cons_ne_nil _ _)
  rw [parse, toList_format, parseChars, trim_format, if_neg hne, stripUnit_format]
  exact readAsSol_number h hn lamports.toNat_lt hpos

/-- Where a rounding changes the binade, and past `2 ^ 22` SOL. -/
theorem parse_format_edge :
    ∀ n ∈ 2 ^ 51 :: List.range' (lamportsPerSol * 2 ^ 22) 7,
      parse (format (.ofNat n)) = .ok (.ofNat n) := by
  decide +kernel

/-- What is printed of an amount is read again, and as the amount itself up to a little more
than `2 ^ 22` SOL. Beyond, what is read is off by a lamport and one part in `2 ^ 51` at
most. -/
theorem parse_format (lamports : UInt64) (h : lamports ≠ 0) :
    (lamports.toNat < 4194304000000007 → parse (format lamports) = .ok lamports) ∧
    ∃ read, parse (format lamports) = .ok read ∧
      read.toNat ≤ lamports.toNat + 1 + lamports.toNat / 2 ^ 51 ∧
      lamports.toNat ≤ read.toNat + 1 + lamports.toNat / 2 ^ 51 := by
  have hn : lamports.toNat ≠ 0 := fun hzero => h (UInt64.toNat_inj.mp hzero)
  obtain ⟨sol, product, sum, hrounded⟩ := exists_rounded hn lamports.toNat_lt
  obtain ⟨hupper, hlower⟩ :=
    hrounded.toLamports_within hn (Nat.le_sub_one_of_lt lamports.toNat_lt)
  have hexact := fun hlt hne => hrounded.toLamports_exact hlt hne
  have hpos : toLamports sol ≠ 0 := by
    by_cases hsmall : lamports.toNat < 2 ^ 51
    · rw [hexact (hsmall.trans (by decide)) (Nat.ne_of_lt hsmall)]
      exact hn
    · omega
  have hparse := parse_format_eq hrounded hn hpos
  have hle : toLamports sol < UInt64.size := by
    rw [hrounded.toLamports_eq]
    exact Nat.lt_of_le_of_lt (Nat.min_le_right _ _) (by decide)
  refine ⟨fun hlt => ?_, UInt64.ofNat (toLamports sol), hparse, ?_, ?_⟩
  · by_cases hedge : lamports.toNat ∈ 2 ^ 51 :: List.range' (lamportsPerSol * 2 ^ 22) 7
    · have hread := parse_format_edge lamports.toNat hedge
      rwa [UInt64.ofNat_toNat] at hread
    · rw [List.mem_cons, List.mem_range'_1, lamportsPerSol] at hedge
      rw [hparse, hexact (by omega) (fun heq => hedge (.inl heq)), UInt64.ofNat_toNat]
  · rwa [UInt64.toNat_ofNat_of_lt' hle]
  · rwa [UInt64.toNat_ofNat_of_lt' hle]

/-- One lamport is read as one lamport, and the greatest amount is read as well. -/
theorem parse_format_extremes :
    (1 : UInt64) ≠ 0 ∧ parse (format 1) = .ok 1 ∧
      (18446744073709551615 : UInt64) ≠ 0 ∧ ∃ read,
        parse (format 18446744073709551615) = .ok read := by
  have hone : (1 : UInt64) ≠ 0 := by decide
  have hgreatest : (18446744073709551615 : UInt64) ≠ 0 := by decide
  obtain ⟨read, hread, -⟩ := (parse_format 18446744073709551615 hgreatest).2
  exact ⟨hone, (parse_format 1 hone).1 (by decide), hgreatest, read, hread⟩

/-- The first amount that is read as another. -/
theorem parse_format_misses :
    parse (format 4194304000000007) = .ok 4194304000000008 := by
  decide +kernel

end Amount

end SlotWallet
