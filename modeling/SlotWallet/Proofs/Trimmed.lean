import Mathlib.Data.List.DropRight
import SlotWallet.Text.Blank

/-!
# Trimmed texts

What trimming leaves of a text, told by its ends: no blank stands there any more, and only blanks
have been taken off (`trimEnd_eq_iff`, `bare_trim`). Trimming again changes nothing
(`trim_eq_self`).
-/

namespace SlotWallet.Text

structure Bare (text : List Char) : Prop where
  starts : ∀ c ∈ text.head?, isBlank c = false
  ends : ∀ c ∈ text.getLast?, isBlank c = false

variable {text kept : List Char}

theorem trimEnd_eq_rdropWhile (text : List Char) : trimEnd text = text.rdropWhile isBlank := rfl

theorem trimEnd_eq_self (h : ∀ c ∈ text.getLast?, isBlank c = false) : trimEnd text = text := by
  rw [trimEnd_eq_rdropWhile, List.rdropWhile_eq_self_iff]
  intro hne
  simp [h _ (List.getLast_mem_getLast? hne)]

theorem trimEnd_append_blanks {blanks : List Char} (h : ∀ c ∈ blanks, isBlank c = true) :
    trimEnd (text ++ blanks) = trimEnd text := by
  rw [trimEnd, trimEnd, List.reverse_append, List.dropWhile_append_of_pos (by simpa using h)]

theorem ends_trimEnd (text : List Char) : ∀ c ∈ (trimEnd text).getLast?, isBlank c = false := by
  intro c hc
  rw [trimEnd_eq_rdropWhile] at hc
  obtain ⟨hne, rfl⟩ := List.mem_getLast?_eq_getLast hc
  simpa using List.rdropWhile_last_not isBlank text hne

/-- Trimming the end takes off blanks, and what is left does not end in one. -/
theorem trimEnd_eq_iff :
    trimEnd text = kept ↔ (∃ blanks, text = kept ++ blanks ∧ ∀ c ∈ blanks, isBlank c = true) ∧
      ∀ c ∈ kept.getLast?, isBlank c = false := by
  constructor
  · rintro rfl
    refine ⟨⟨text.rtakeWhile isBlank, ?_, fun c hc => List.mem_rtakeWhile_imp hc⟩,
      ends_trimEnd text⟩
    exact List.rdropWhile_append_rtakeWhile.symm
  · rintro ⟨⟨blanks, rfl, hblanks⟩, hends⟩
    rw [trimEnd_append_blanks hblanks, trimEnd_eq_self hends]

theorem trimStart_eq_self_of_starts (h : ∀ c ∈ text.head?, isBlank c = false) :
    trimStart text = text := by
  cases text with
  | nil => rfl
  | cons c text => exact trimStart_eq_self (h c rfl)

theorem starts_trimStart (text : List Char) :
    ∀ c ∈ (trimStart text).head?, isBlank c = false := by
  intro c hc
  have hhead := List.head?_dropWhile_not isBlank text
  rwa [← trimStart, hc] at hhead

theorem bare_of_all (h : text.all (!isBlank ·) = true) : Bare text := by
  have hnone : ∀ c ∈ text, isBlank c = false := by simpa using h
  constructor
  · intro c hc
    exact hnone c (List.mem_of_mem_head? hc)
  · intro c hc
    exact hnone c (List.mem_of_mem_getLast? hc)

theorem bare_trim (text : List Char) : Bare (trim text) := by
  refine ⟨?_, ends_trimEnd (trimStart text)⟩
  intro c hc
  -- what is trimmed at the end begins like what it was taken off
  obtain ⟨rest, hrest⟩ : trim text <+: trimStart text := List.rdropWhile_prefix isBlank _
  apply starts_trimStart text
  rw [← hrest]
  exact List.mem_head?_append_of_mem_head? hc

theorem trim_eq_self (h : Bare text) : trim text = text := by
  rw [trim, trimStart_eq_self_of_starts h.starts, trimEnd_eq_self h.ends]

end SlotWallet.Text
