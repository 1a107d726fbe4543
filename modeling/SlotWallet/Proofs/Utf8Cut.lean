import SlotWallet.Text.Utf8

/-!
# Where a text is cut

A cut that has to spare characters can be found from the bytes alone: start at the limit
and step back until a character begins there. A character has four bytes at most, so
this ends after three steps, and it ends where the longest run of whole characters
within the limit does (`trimmed_iff`).
-/

namespace SlotWallet.Text

theorem utf8ByteSize_ofList (text : List Char) :
    (String.ofList text).utf8ByteSize = utf8Length text := by
  induction text with
  | nil => rfl
  | cons c rest ih => simp [← ih]

theorem utf8ByteSize_eq (text : String) : text.utf8ByteSize = utf8Length text.toList := by
  simp [← utf8ByteSize_ofList]

theorem isValid_iff_splitAtByte? {place : Nat} {text : List Char} :
    String.Pos.Raw.IsValid (String.ofList text) ⟨place⟩ ↔
      ∃ before behind, splitAtByte? place text = some (before, behind) := by
  simp only [splitAtByte?_eq_some, String.Pos.Raw.isValid_iff_exists_append]
  constructor
  · rintro ⟨before, behind, htext, hplace⟩
    refine ⟨before.toList, behind.toList, ?_, ?_⟩
    · simpa using congrArg String.toList htext
    · rw [← utf8ByteSize_eq]
      exact (congrArg String.Pos.Raw.byteIdx hplace).symm
  · rintro ⟨before, behind, rfl, rfl⟩
    refine ⟨String.ofList before, String.ofList behind, by simp, ?_⟩
    rw [← utf8ByteSize_ofList]
    rfl

theorem utf8Length_le_of_prefix {a b : List Char} (h : a <+: b) : utf8Length a ≤ utf8Length b := by
  obtain ⟨rest, rfl⟩ := h
  simp

-- ---------------------------------------------------------------------------
-- The longest run of characters
-- ---------------------------------------------------------------------------

theorem prefix_utf8Take {limit : Nat} {shorter text : List Char} (h : shorter <+: text)
    (hfits : utf8Length shorter ≤ limit) : shorter <+: utf8Take limit text := by
  induction text generalizing limit shorter with
  | nil => exact h
  | cons c rest ih =>
    cases shorter with
    | nil => exact List.nil_prefix
    | cons d shorter =>
      obtain ⟨rfl, hrest⟩ := List.cons_prefix_cons.mp h
      simp only [utf8Length_cons] at hfits
      rw [utf8Take, if_pos (by omega)]
      exact List.cons_prefix_cons.mpr ⟨rfl, ih hrest (by omega)⟩

theorem lt_utf8Length_utf8Take {limit : Nat} {text : List Char} (h : limit < utf8Length text) :
    limit < utf8Length (utf8Take limit text) + 4 := by
  induction text generalizing limit with
  | nil => simp at h
  | cons c rest ih =>
    have hc := c.utf8Size_le_four
    simp only [utf8Length_cons] at h
    unfold utf8Take
    split
    · have hrest : limit - c.utf8Size < utf8Length rest := by omega
      have := ih hrest
      simp only [utf8Length_cons]
      omega
    · simp only [utf8Length_nil]
      omega

-- ---------------------------------------------------------------------------
-- Stepping back
-- ---------------------------------------------------------------------------

/-- Steps back from a place in the bytes of a text to the first where no character is
divided. -/
def stepBack? (text : String) : Nat → Option Nat
  | 0 => if String.Pos.Raw.isValid text 0 then some 0 else none
  | place + 1 =>
    if String.Pos.Raw.isValid text ⟨place + 1⟩ then some (place + 1) else stepBack? text place

theorem stepBack?_eq {text : String} {start place : Nat} (hle : place ≤ start)
    (hvalid : String.Pos.Raw.IsValid text ⟨place⟩)
    (hover : ∀ p, place < p → p ≤ start → ¬ String.Pos.Raw.IsValid text ⟨p⟩) :
    stepBack? text start = some place := by
  induction start with
  | zero =>
    obtain rfl := Nat.le_zero.mp hle
    exact if_pos (String.Pos.Raw.isValid_eq_true_iff.mpr hvalid)
  | succ start ih =>
    rcases Nat.le_succ_iff.mp hle with hbelow | rfl
    · have hinside := hover (start + 1) (by omega) (Nat.le_refl _)
      rw [stepBack?, if_neg (by simpa using hinside)]
      exact ih hbelow fun p hp hps => hover p hp (by omega)
    · exact if_pos (String.Pos.Raw.isValid_eq_true_iff.mpr hvalid)

theorem stepBack?_utf8Take (limit : Nat) (text : String) :
    stepBack? text limit = some (utf8Length (utf8Take limit text.toList)) := by
  have hkept := utf8Take_prefix limit text.toList
  refine stepBack?_eq (utf8Length_utf8Take_le limit _) ?_ ?_
  · refine String.Pos.Raw.isValid_iff_exists_take_toList.mpr
      ⟨(utf8Take limit text.toList).length, ?_⟩
    rw [← List.prefix_iff_eq_take.mp hkept, utf8ByteSize_ofList]
  · -- a place between divides a character, for else the run up to it would be longer
    intro p hp hlimit hvalid
    obtain ⟨i, hi⟩ := String.Pos.Raw.isValid_iff_exists_take_toList.mp hvalid
    rw [utf8ByteSize_ofList] at hi
    have hfits : utf8Length (text.toList.take i) ≤ limit := hi ▸ hlimit
    have hle := utf8Length_le_of_prefix (prefix_utf8Take (List.take_prefix i _) hfits)
    have hat : p = utf8Length (text.toList.take i) := hi
    omega

example : stepBack? "aé" 2 = some 1 := by decide

-- ---------------------------------------------------------------------------
-- Trimmed texts
-- ---------------------------------------------------------------------------

/-- What is kept of a text of which only `limit` bytes may be kept. -/
structure Trimmed (limit : Nat) (text kept : String) : Prop where
  isPrefix : kept.toList <+: text.toList
  le_limit : kept.utf8ByteSize ≤ limit
  longest : ∀ other : String, other.toList <+: text.toList → other.utf8ByteSize ≤ limit →
    other.toList <+: kept.toList
  /-- The loop over the bytes ends where the kept text does, after three steps at most. -/
  stops : limit < text.utf8ByteSize →
    stepBack? text limit = some kept.utf8ByteSize ∧ limit ≤ kept.utf8ByteSize + 3

theorem trimmed_iff {limit : Nat} {text kept : String} :
    Trimmed limit text kept ↔ kept = String.ofList (utf8Take limit text.toList) := by
  constructor
  · intro h
    have hle := prefix_utf8Take h.isPrefix (utf8ByteSize_eq kept ▸ h.le_limit)
    have hge := h.longest (String.ofList (utf8Take limit text.toList))
      (by simpa using utf8Take_prefix limit text.toList)
      (by simpa [utf8ByteSize_ofList] using utf8Length_utf8Take_le limit text.toList)
    rw [String.toList_ofList] at hge
    rw [← hle.eq_of_length_le hge.length_le, String.ofList_toList]
  · rintro rfl
    refine ⟨?_, ?_, ?_, ?_⟩
    · simpa using utf8Take_prefix limit text.toList
    · simpa [utf8ByteSize_ofList] using utf8Length_utf8Take_le limit text.toList
    · intro other hother hfits
      simpa using prefix_utf8Take hother (utf8ByteSize_eq other ▸ hfits)
    · intro hlong
      rw [utf8ByteSize_eq] at hlong
      rw [utf8ByteSize_ofList]
      exact ⟨stepBack?_utf8Take limit text, Nat.lt_succ_iff.mp (lt_utf8Length_utf8Take hlong)⟩

end SlotWallet.Text
