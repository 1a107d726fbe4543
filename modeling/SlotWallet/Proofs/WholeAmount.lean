import Mathlib.Data.Nat.Digits.Defs
import SlotWallet.Proofs.Amount
import SlotWallet.Proofs.Letters
import SlotWallet.Proofs.Success
import SlotWallet.Proofs.Trimmed
import SlotWallet.Proofs.Utf8Cut

/-!
# Amounts of lamports

A text that names no unit and has no mark of a fraction is an amount of lamports, and it is one
exactly if it is digits behind at most a plus sign (`parse_lamports`). The unit is looked for in the
last three bytes of a text, and what is found there is three letters (`stripUnit_eq_some`).
-/

namespace SlotWallet

namespace Amount

open Decimal

-- ---------------------------------------------------------------------------
-- The unit
-- ---------------------------------------------------------------------------

/-- A text that ends in the letters of the unit, and the number before them, which no blank
belongs to. -/
structure HasUnit (text number : List Char) : Prop where
  letters : ∃ blanks, ∃ s ∈ ['s', 'S'], ∃ o ∈ ['o', 'O'], ∃ l ∈ ['l', 'L'],
    text = number ++ blanks ++ [s, o, l] ∧ ∀ c ∈ blanks, Text.isBlank c = true
  ends : ∀ c ∈ number.getLast?, Text.isBlank c = false

variable {text number : List Char}

theorem sameLetters_unit {unit : List Char} :
    Text.sameLetters unit ['s', 'o', 'l'] = true ↔
      ∃ s ∈ ['s', 'S'], ∃ o ∈ ['o', 'O'], ∃ l ∈ ['l', 'L'], unit = [s, o, l] :=
  Text.sameLetters_three (by decide)

theorem utf8Length_unit {unit : List Char} (h : Text.sameLetters unit ['s', 'o', 'l'] = true) :
    Text.utf8Length unit = 3 :=
  Text.utf8Length_of_sameLetters (by decide) h

theorem exists_split_of_stripUnit (h : stripUnit text = some number) :
    ∃ front unit, Text.splitAtByte? (Text.utf8Length text - 3) text = some (front, unit) ∧
      Text.sameLetters unit ['s', 'o', 'l'] = true ∧ Text.trimEnd front = number := by
  unfold stripUnit at h
  split at h
  · contradiction
  · rename_i front unit hsplit
    split at h
    · rename_i hunit
      exact ⟨front, unit, hsplit, hunit, Option.some.inj h⟩
    · contradiction

/-- The unit is taken off exactly where a text ends in its letters, and the blanks before them go
with it. -/
theorem stripUnit_eq_some : stripUnit text = some number ↔ HasUnit text number := by
  constructor
  · intro h
    obtain ⟨front, unit, hsplit, hunit, hnumber⟩ := exists_split_of_stripUnit h
    obtain ⟨htext, -⟩ := Text.splitAtByte?_eq_some.mp hsplit
    obtain ⟨s, hs, o, ho, l, hl, rfl⟩ := sameLetters_unit.mp hunit
    obtain ⟨⟨blanks, rfl, hblanks⟩, hends⟩ := Text.trimEnd_eq_iff.mp hnumber
    exact ⟨⟨blanks, s, hs, o, ho, l, hl, htext, hblanks⟩, hends⟩
  · rintro ⟨⟨blanks, s, hs, o, ho, l, hl, rfl, hblanks⟩, hends⟩
    have hunit := sameLetters_unit.mpr ⟨s, hs, o, ho, l, hl, rfl⟩
    rw [stripUnit_append _ (utf8Length_unit hunit) hunit]
    exact congrArg some (Text.trimEnd_eq_iff.mpr ⟨⟨blanks, rfl, hblanks⟩, hends⟩)

theorem isValid_of_stripUnit (h : stripUnit text = some number) :
    String.Pos.Raw.IsValid (String.ofList text) ⟨Text.utf8Length text - 3⟩ := by
  obtain ⟨front, unit, hsplit, -⟩ := exists_split_of_stripUnit h
  exact Text.isValid_iff_splitAtByte?.mpr ⟨front, unit, hsplit⟩

-- ---------------------------------------------------------------------------
-- Numerals
-- ---------------------------------------------------------------------------

def Numeral (text : List Char) (n : Nat) : Prop :=
  ∃ digits, (text = digits ∨ text = '+' :: digits) ∧ digits ≠ [] ∧
    (∀ c ∈ digits, c.isDigit = true) ∧ n = Nat.ofDigits 10 (digits.reverse.map digitValue)

variable {n : Nat}

theorem value_eq_ofDigits (digits : List Char) :
    value digits = Nat.ofDigits 10 (digits.reverse.map digitValue) := by
  rw [Nat.ofDigits_eq_foldr, List.map_reverse, List.foldr_reverse, List.foldl_map]
  simp [value, valueFrom, Nat.add_comm]

theorem value?_eq_some {digits : List Char} :
    value? digits = some n ↔
      digits ≠ [] ∧ (∀ c ∈ digits, c.isDigit = true) ∧ value digits = n := by
  simp [value?, and_assoc]

/-- A sign is no digit, so the digits of a numeral can be told from what is before them. -/
theorem numeral_iff : Numeral text n ↔
    (∃ digits, text = '+' :: digits ∧ value? digits = some n) ∨
      (text.head? ≠ some '+' ∧ value? text = some n) := by
  constructor
  · rintro ⟨digits, rfl | rfl, hne, hdigits, rfl⟩
    · refine .inr ⟨?_, value?_eq_some.mpr ⟨hne, hdigits, value_eq_ofDigits text⟩⟩
      intro hplus
      have hdigit := hdigits '+' (List.mem_of_mem_head? hplus)
      contradiction
    · exact .inl ⟨digits, rfl, value?_eq_some.mpr ⟨hne, hdigits, value_eq_ofDigits digits⟩⟩
  · rintro (⟨digits, rfl, hvalue⟩ | ⟨-, hvalue⟩)
    · obtain ⟨hne, hdigits, rfl⟩ := value?_eq_some.mp hvalue
      exact ⟨digits, .inr rfl, hne, hdigits, value_eq_ofDigits digits⟩
    · obtain ⟨hne, hdigits, rfl⟩ := value?_eq_some.mp hvalue
      exact ⟨text, .inl rfl, hne, hdigits, value_eq_ofDigits text⟩

theorem readLamports?_eq_some : readLamports? text = some n ↔ Numeral text n ∧ n ≤ maxLamports := by
  rw [numeral_iff]
  by_cases hplus : text.head? = some '+'
  · obtain ⟨digits, rfl⟩ := List.head?_eq_some_iff.mp hplus
    rw [readLamports?, readUnsigned?_plus]
    simp [Option.bind_eq_some_iff]
  · rw [readLamports?, readUnsigned?_of_head maxLamports hplus]
    have hsign : ∀ digits, text ≠ '+' :: digits := by
      rintro digits rfl
      exact hplus rfl
    simp [Option.bind_eq_some_iff, hplus, hsign]

theorem Numeral.ne_nil (h : Numeral text n) : text ≠ [] := by
  obtain ⟨digits, rfl | rfl, hne, -⟩ := h
  · exact hne
  · exact List.cons_ne_nil '+' digits

theorem Numeral.unique {m : Nat} (h : Numeral text n) (h' : Numeral text m) : n = m := by
  obtain ⟨digits, hplus, hvalue⟩ | ⟨hplus, hvalue⟩ := numeral_iff.mp h
  · obtain ⟨digits', hplus', hvalue'⟩ | ⟨hplus', -⟩ := numeral_iff.mp h'
    · grind
    · grind
  · obtain ⟨digits', hplus', -⟩ | ⟨-, hvalue'⟩ := numeral_iff.mp h'
    · grind
    · grind

-- ---------------------------------------------------------------------------
-- Texts of lamports
-- ---------------------------------------------------------------------------

inductive Refused (text : List Char) : InputFault → Prop
  | empty (hempty : text = []) : Refused text .emptyAmount
  | zero (hzero : Numeral text 0) : Refused text .zeroAmount
  | other (hne : text ≠ []) (hlarge : ∀ n, Numeral text n → maxLamports < n) :
      Refused text (.lamportAmount text)

namespace Refused

variable {fault fault' : InputFault}

theorem not_amount (h : Refused text fault) (hn : Numeral text n) :
    ¬ (1 ≤ n ∧ n ≤ maxLamports) := by
  rintro ⟨hpos, hle⟩
  cases h with
  | empty hempty => exact hn.ne_nil hempty
  | zero hzero =>
    obtain rfl := hn.unique hzero
    contradiction
  | other _ hlarge => exact Nat.not_lt.mpr hle (hlarge n hn)

theorem unique (h : Refused text fault) (h' : Refused text fault') : fault = fault' := by
  cases h with
  | empty hempty =>
    cases h' with
    | empty => rfl
    | zero hzero => exact absurd hempty hzero.ne_nil
    | other hne => exact absurd hempty hne
  | zero hzero =>
    cases h' with
    | empty hempty => exact absurd hempty hzero.ne_nil
    | zero => rfl
    | other _ hlarge => exact absurd (hlarge 0 hzero) (Nat.not_lt_zero _)
  | other hne hlarge =>
    cases h' with
    | empty hempty => exact absurd hempty hne
    | zero hzero => exact absurd (hlarge 0 hzero) (Nat.not_lt_zero _)
    | other => rfl

end Refused

theorem readAsLamports_cases (hne : text ≠ []) :
    (∃ n, Numeral text n ∧ (1 ≤ n ∧ n ≤ maxLamports) ∧ readAsLamports text = .ok (.ofNat n)) ∨
      ∃ fault, Refused text fault ∧ readAsLamports text = .error fault := by
  unfold readAsLamports
  cases hread : readLamports? text with
  | none =>
    have hlarge : ∀ n, Numeral text n → maxLamports < n := by
      intro n hn
      by_contra hle
      have hsome := readLamports?_eq_some.mpr ⟨hn, Nat.not_lt.mp hle⟩
      rw [hread] at hsome
      contradiction
    exact .inr ⟨_, .other hne hlarge, rfl⟩
  | some n =>
    obtain ⟨hn, hle⟩ := readLamports?_eq_some.mp hread
    cases n with
    | zero => exact .inr ⟨_, .zero hn, rfl⟩
    | succ n => exact .inl ⟨n + 1, hn, ⟨Nat.succ_le_succ n.zero_le, hle⟩, rfl⟩

theorem looksFractional_eq_false :
    looksFractional text = false ↔ ∀ c ∈ text, c ≠ '.' ∧ c ≠ 'e' ∧ c ≠ 'E' := by
  simp [looksFractional, and_assoc]

theorem parseChars_cases (hunit : stripUnit (Text.trim text) = none)
    (hmark : looksFractional (Text.trim text) = false) :
    (∃ n, Numeral (Text.trim text) n ∧ (1 ≤ n ∧ n ≤ maxLamports) ∧
      parseChars text = .ok (.ofNat n)) ∨
      ∃ fault, Refused (Text.trim text) fault ∧ parseChars text = .error fault := by
  by_cases hempty : Text.trim text = []
  · refine .inr ⟨.emptyAmount, .empty hempty, ?_⟩
    simp only [parseChars, hempty]
    rfl
  · have hparse : parseChars text = readAsLamports (Text.trim text) := by
      simp [parseChars, hempty, hunit, hmark]
    rw [hparse]
    exact readAsLamports_cases hempty

theorem parseChars_ok (hunit : stripUnit (Text.trim text) = none)
    (hmark : looksFractional (Text.trim text) = false) :
    (parseChars text).map UInt64.toNat = .ok n ↔
      Numeral (Text.trim text) n ∧ 1 ≤ n ∧ n ≤ maxLamports := by
  rcases parseChars_cases hunit hmark with ⟨m, hm, hrange, hparse⟩ | ⟨fault, hfault, hparse⟩
  · have htoNat : (UInt64.ofNat m).toNat = m :=
      UInt64.toNat_ofNat_of_lt' (Nat.lt_of_le_of_lt hrange.2 (by decide))
    rw [hparse]
    constructor
    · intro h
      obtain rfl : m = n := htoNat.symm.trans (Except.ok.inj h)
      exact ⟨hm, hrange⟩
    · rintro ⟨hn, -⟩
      obtain rfl := hn.unique hm
      exact congrArg Except.ok htoNat
  · rw [hparse]
    constructor
    · intro h
      contradiction
    · rintro ⟨hn, hrange⟩
      exact absurd hrange (hfault.not_amount hn)

theorem parseChars_error {fault : InputFault} (hunit : stripUnit (Text.trim text) = none)
    (hmark : looksFractional (Text.trim text) = false) :
    parseChars text = .error fault ↔ Refused (Text.trim text) fault := by
  rcases parseChars_cases hunit hmark with ⟨n, hn, hrange, hparse⟩ | ⟨fault', hfault', hparse⟩
  · rw [hparse]
    constructor
    · intro h
      contradiction
    · intro hfault
      exact absurd hrange (hfault.not_amount hn)
  · rw [hparse]
    constructor
    · intro h
      rwa [← Except.error.inj h]
    · intro hfault
      rw [hfault'.unique hfault]

/-- A unit is found exactly at the end of a text that has one, between two characters, and the
blanks before it go with it. Without a unit and a mark of a fraction exactly the numerals of the
amounts are read, as lamports, and every other text is refused for what is wrong with it. -/
theorem parse_lamports :
    (∀ text number, (stripUnit text = some number ↔ HasUnit text number) ∧
      (stripUnit text = some number →
        String.Pos.Raw.IsValid (String.ofList text) ⟨Text.utf8Length text - 3⟩)) ∧
    ∀ text : String, (¬ ∃ number, HasUnit (Text.trim text.toList) number) →
      (∀ c ∈ Text.trim text.toList, c ≠ '.' ∧ c ≠ 'e' ∧ c ≠ 'E') →
      (∀ n : Nat, (parse text).map UInt64.toNat = .ok n ↔
        Numeral (Text.trim text.toList) n ∧ 1 ≤ n ∧ n ≤ 2 ^ 64 - 1) ∧
      ∀ e, (parse text).mapError WalletError.invalidInput = .error e ↔
        ∃ fault, Refused (Text.trim text.toList) fault ∧ WalletError.invalidInput fault = e := by
  refine ⟨fun text number => ⟨stripUnit_eq_some, isValid_of_stripUnit⟩, ?_⟩
  intro text hunit hmark
  have hnone : stripUnit (Text.trim text.toList) = none := by
    rw [Option.eq_none_iff_forall_ne_some]
    intro number hnumber
    exact hunit ⟨number, stripUnit_eq_some.mp hnumber⟩
  have hwhole := looksFractional_eq_false.mpr hmark
  constructor
  · intro n
    exact parseChars_ok hnone hwhole
  · intro e
    rw [mapError_error]
    simp only [parse, parseChars_error hnone hwhole]

/-- Blanks around a numeral, its sign and the zeros in front of it say nothing. -/
theorem parse_lamports_plus :
    (¬ ∃ number, HasUnit (Text.trim " +007\n".toList) number) ∧
      (∀ c ∈ Text.trim " +007\n".toList, c ≠ '.' ∧ c ≠ 'e' ∧ c ≠ 'E') ∧
      (parse " +007\n").map UInt64.toNat = .ok 7 := by
  have hunit : ¬ ∃ number, HasUnit (Text.trim " +007\n".toList) number := by
    rintro ⟨number, hnumber⟩
    have hnone : stripUnit (Text.trim " +007\n".toList) = none := by decide
    rw [stripUnit_eq_some.mpr hnumber] at hnone
    contradiction
  have hwhole : looksFractional (Text.trim " +007\n".toList) = false := by decide
  have hmark := looksFractional_eq_false.mp hwhole
  have hdigits : ['0', '0', '7'].all Char.isDigit = true := by decide
  have hnumeral : Numeral (Text.trim " +007\n".toList) 7 := by
    exact ⟨['0', '0', '7'], .inr (by decide), by decide, List.all_eq_true.mp hdigits, by decide⟩
  exact ⟨hunit, hmark, ((parse_lamports.2 _ hunit hmark).1 7).mpr ⟨hnumeral, by decide, by decide⟩⟩

end Amount

end SlotWallet
