import Mathlib.Data.List.Forall2
import SlotWallet.Text.Ascii
import SlotWallet.Text.Utf8

/-!
# Words in any case

A character has a small ASCII letter for its small form only if it is that letter or its
capital (`asciiLower_eq_iff`). So what a word is matched with has as many letters, and each of
them one byte.
-/

namespace SlotWallet.Text

def asciiUpper (c : Char) : Char := Char.ofNat (c.toNat - 32)

variable {c d : Char} {word letters : List Char}

theorem isLower_iff : d.isLower = true ↔ 97 ≤ d.toNat ∧ d.toNat ≤ 122 := by
  have hbounds : d.isLower = (decide ('a'.val ≤ d.val) && decide (d.val ≤ 'z'.val)) := rfl
  simp [hbounds, UInt32.le_iff_toNat_le]

theorem toNat_asciiUpper (h : d.isLower = true) : (asciiUpper d).toNat = d.toNat - 32 := by
  have hvalid : (d.toNat - 32).isValidChar := .inl (by have := isLower_iff.mp h; omega)
  rw [asciiUpper, Char.ofNat, dif_pos hvalid]
  rfl

theorem asciiLower_eq_iff (h : d.isLower = true) : asciiLower c = d ↔ c = d ∨ c = asciiUpper d := by
  obtain ⟨hlow, hhigh⟩ := isLower_iff.mp h
  constructor
  · intro hc
    unfold asciiLower at hc
    split at hc
    · rename_i hcapital
      have hvalid : (c.toNat + 32).isValidChar := .inl (by omega)
      have hnat : d.toNat = c.toNat + 32 := by
        rw [← hc, Char.ofNat, dif_pos hvalid]
        rfl
      right
      rw [asciiUpper, hnat, Nat.add_sub_cancel, Char.ofNat_toNat]
    · exact .inl hc
  · rintro (rfl | rfl)
    · exact if_neg (by omega)
    · rw [asciiLower, toNat_asciiUpper h, if_pos (by omega), Nat.sub_add_cancel (by omega),
        Char.ofNat_toNat]

theorem sameLetters_iff (h : letters.all Char.isLower = true) :
    sameLetters word letters = true ↔
      List.Forall₂ (fun c d => c = d ∨ c = asciiUpper d) word letters := by
  induction letters generalizing word with
  | nil => simp [sameLetters]
  | cons d letters ih =>
    obtain ⟨hd, hletters⟩ := Bool.and_eq_true_iff.mp h
    cases word with
    | nil => simp [sameLetters]
    | cons c word =>
      rw [List.forall₂_cons, ← ih hletters, ← asciiLower_eq_iff hd]
      simp [sameLetters, (asciiLower_eq_iff hd).mpr (.inl rfl)]

theorem sameLetters_three {a b c : Char} (h : [a, b, c].all Char.isLower = true) :
    sameLetters word [a, b, c] = true ↔ ∃ x ∈ [a, asciiUpper a], ∃ y ∈ [b, asciiUpper b],
      ∃ z ∈ [c, asciiUpper c], word = [x, y, z] := by
  rw [sameLetters_iff h]
  simp only [List.forall₂_cons_right_iff, List.forall₂_nil_right_iff, List.mem_cons,
    List.not_mem_nil, or_false]
  constructor
  · rintro ⟨x, _, hx, ⟨y, _, hy, ⟨z, _, hz, rfl, rfl⟩, rfl⟩, rfl⟩
    exact ⟨x, hx, y, hy, z, hz, rfl⟩
  · rintro ⟨x, hx, y, hy, z, hz, rfl⟩
    exact ⟨x, _, hx, ⟨y, _, hy, ⟨z, _, hz, rfl, rfl⟩, rfl⟩, rfl⟩

theorem toNat_le_of_sameLetters (h : letters.all Char.isLower = true)
    (hsame : sameLetters word letters = true) : ∀ c ∈ word, c.toNat ≤ 127 := by
  intro c hc
  have hmap : word.map asciiLower = letters.map asciiLower := eq_of_beq hsame
  obtain ⟨d, hd, hlower⟩ := List.mem_map.mp (hmap ▸ List.mem_map_of_mem hc)
  have hsmall := List.all_eq_true.mp h d hd
  have hbound := (isLower_iff.mp hsmall).2
  rw [(asciiLower_eq_iff hsmall).mpr (.inl rfl)] at hlower
  rcases (asciiLower_eq_iff hsmall).mp hlower.symm with rfl | rfl
  · omega
  · rw [toNat_asciiUpper hsmall]
    omega

theorem utf8Length_of_sameLetters (h : letters.all Char.isLower = true)
    (hsame : sameLetters word letters = true) : utf8Length word = letters.length := by
  rw [utf8Length_of_ascii (toNat_le_of_sameLetters h hsame), length_eq_of_sameLetters hsame]

end SlotWallet.Text
