import SlotWallet.Proofs.Letters
import SlotWallet.Proofs.Success
import SlotWallet.Proofs.Trimmed
import SlotWallet.Proofs.Utf8Cut
import SlotWallet.Slot.Basic

/-!
# Names of slots

A text names a slot by one ASCII digit, alone or behind the letters `Str` in any case
(`Slot.Names`), and no other text is read (`ofName_reads`). A text that has no room for the
letters in its first three bytes is read whole.
-/

namespace SlotWallet.Slot

open Decimal

-- ---------------------------------------------------------------------------
-- The letters
-- ---------------------------------------------------------------------------

/-- The text is the digit of the slot, alone or behind the three letters. -/
def Names (text : List Char) (slot : Slot) : Prop :=
  ∃ c, c.isDigit = true ∧ slot.index.val = digitValue c ∧
    (text = [c] ∨ ∃ s ∈ ['s', 'S'], ∃ t ∈ ['t', 'T'], ∃ r ∈ ['r', 'R'], text = [s, t, r, c])

variable {text rest : List Char} {slot : Slot} {c : Char}

theorem behindLetters?_iff_split :
    behindLetters? text = some rest ↔ ∃ letters,
      Text.splitAtByte? 3 text = some (letters, rest) ∧
        Text.sameLetters letters ['s', 't', 'r'] = true := by
  unfold behindLetters?
  constructor
  · intro h
    split at h
    · contradiction
    · rename_i letters behind hsplit
      split at h
      · rename_i hsame
        cases h
        exact ⟨letters, hsplit, hsame⟩
      · contradiction
  · rintro ⟨letters, hsplit, hsame⟩
    rw [hsplit]
    exact if_pos hsame

theorem behindLetters?_eq_some :
    behindLetters? text = some rest ↔
      ∃ s ∈ ['s', 'S'], ∃ t ∈ ['t', 'T'], ∃ r ∈ ['r', 'R'], text = s :: t :: r :: rest := by
  have hletters (letters : List Char) : Text.sameLetters letters ['s', 't', 'r'] = true ↔
      ∃ s ∈ ['s', 'S'], ∃ t ∈ ['t', 'T'], ∃ r ∈ ['r', 'R'], letters = [s, t, r] :=
    Text.sameLetters_three (by decide)
  simp only [behindLetters?_iff_split, Text.splitAtByte?_eq_some]
  constructor
  · rintro ⟨letters, ⟨rfl, -⟩, hsame⟩
    obtain ⟨s, hs, t, ht, r, hr, rfl⟩ := (hletters letters).mp hsame
    exact ⟨s, hs, t, ht, r, hr, rfl⟩
  · rintro ⟨s, hs, t, ht, r, hr, rfl⟩
    have hsame := (hletters [s, t, r]).mpr ⟨s, hs, t, ht, r, hr, rfl⟩
    exact ⟨[s, t, r], ⟨rfl, Text.utf8Length_of_sameLetters (by decide) hsame⟩, hsame⟩

theorem isValid_of_behindLetters? (h : behindLetters? text = some rest) :
    String.Pos.Raw.IsValid (String.ofList text) ⟨3⟩ := by
  obtain ⟨letters, hsplit, -⟩ := behindLetters?_iff_split.mp h
  exact Text.isValid_iff_splitAtByte?.mpr ⟨letters, rest, hsplit⟩

-- ---------------------------------------------------------------------------
-- The digit
-- ---------------------------------------------------------------------------

theorem isDigit_iff : c.isDigit = true ↔ 48 ≤ c.toNat ∧ c.toNat ≤ 57 := by
  simp [Char.isDigit, UInt32.le_iff_toNat_le, ← Char.toNat_val]

/-- A number in one byte is a digit: a sign leaves no room for one. -/
theorem readDigit_iff {index : Nat} :
    Text.utf8Length text = 1 ∧ readUnsigned? (UInt8.size - 1) text = some index ↔
      ∃ c, text = [c] ∧ c.isDigit = true ∧ index = digitValue c := by
  constructor
  · rintro ⟨hlength, hread⟩
    obtain ⟨c, rfl⟩ := Text.utf8Length_eq_one hlength
    rw [readUnsigned?_singleton] at hread
    split at hread
    · rename_i hdigit
      exact ⟨c, rfl, hdigit.1, (Option.some.inj hread).symm⟩
    · contradiction
  · rintro ⟨c, rfl, hdigit, rfl⟩
    have hbound := (isDigit_iff.mp hdigit).2
    have hfits : digitValue c ≤ UInt8.size - 1 := (Nat.sub_le _ _).trans (hbound.trans (by decide))
    refine ⟨Text.utf8Length_of_ascii ?_, ?_⟩
    · simpa using hbound.trans (by decide)
    · rw [readUnsigned?_singleton, if_pos ⟨hdigit, hfits⟩]

theorem ofIndex_digitValue (h : c.isDigit = true) :
    ∃ slot, ofIndex (digitValue c) = .ok slot ∧ slot.index.val = digitValue c := by
  have hbound : digitValue c < 10 := by
    have := (isDigit_iff.mp h).2
    rw [digitValue]
    omega
  exact ⟨⟨digitValue c, hbound⟩, dif_pos hbound, rfl⟩

-- ---------------------------------------------------------------------------
-- Names
-- ---------------------------------------------------------------------------

theorem getD_behindLetters? :
    (behindLetters? text).getD text = [c] ↔
      text = [c] ∨ ∃ s ∈ ['s', 'S'], ∃ t ∈ ['t', 'T'], ∃ r ∈ ['r', 'R'], text = [s, t, r, c] := by
  cases h : behindLetters? text with
  | none =>
    have hnone : ¬ ∃ s ∈ ['s', 'S'], ∃ t ∈ ['t', 'T'], ∃ r ∈ ['r', 'R'], text = [s, t, r, c] := by
      intro hletters
      rw [behindLetters?_eq_some.mpr hletters] at h
      contradiction
    simp only [Option.getD_none, hnone, or_false]
  | some rest =>
    obtain ⟨s, hs, t, ht, r, hr, rfl⟩ := behindLetters?_eq_some.mp h
    rw [Option.getD_some]
    constructor
    · rintro rfl
      exact .inr ⟨s, hs, t, ht, r, hr, rfl⟩
    · rintro (hsingle | ⟨s', -, t', -, r', -, hsame⟩)
      · cases hsingle
      · cases hsame
        rfl

theorem ofChars_cases (text : List Char) :
    (∃ slot, Names (Text.trim text) slot ∧ ofChars text = .ok slot) ∨
      ((∀ slot, ¬ Names (Text.trim text) slot) ∧
        ofChars text = .error (.slotName (Text.trim text))) := by
  simp only [Names, ← getD_behindLetters?, ofChars]
  generalize (behindLetters? (Text.trim text)).getD (Text.trim text) = digits
  by_cases hread : ∃ index,
      Text.utf8Length digits = 1 ∧ readUnsigned? (UInt8.size - 1) digits = some index
  · left
    obtain ⟨index, hlength, hindex⟩ := hread
    obtain ⟨c, hdigits, hdigit, rfl⟩ := readDigit_iff.mp ⟨hlength, hindex⟩
    obtain ⟨slot, hslot, hvalue⟩ := ofIndex_digitValue hdigit
    refine ⟨slot, ⟨c, hdigit, hvalue, hdigits⟩, ?_⟩
    rw [if_pos hlength, hindex]
    exact hslot
  · right
    constructor
    · rintro slot ⟨c, hdigit, -, hdigits⟩
      exact hread ⟨digitValue c, readDigit_iff.mpr ⟨c, hdigits, hdigit, rfl⟩⟩
    · split
      · rename_i hlength
        split
        · rename_i index hindex
          exact absurd ⟨index, hlength, hindex⟩ hread
        · rfl
      · rfl

theorem Names.unique {slot' : Slot} (h : Names text slot) (h' : Names text slot') :
    slot = slot' := by
  obtain ⟨c, -, hindex, htext⟩ := h
  obtain ⟨c', -, hindex', htext'⟩ := h'
  obtain rfl : c = c' := by
    have hsame := (getD_behindLetters?.mpr htext).symm.trans (getD_behindLetters?.mpr htext')
    exact List.singleton_inj.mp hsame
  cases slot
  cases slot'
  exact congrArg Slot.mk (Fin.ext (hindex.trans hindex'.symm))

theorem ofChars_ok : ofChars text = .ok slot ↔ Names (Text.trim text) slot := by
  rcases ofChars_cases text with ⟨found, hfound, hread⟩ | ⟨hnone, hread⟩
  · rw [hread]
    constructor
    · rintro h
      cases h
      exact hfound
    · intro hnames
      rw [hfound.unique hnames]
  · rw [hread]
    exact ⟨nofun, fun hnames => absurd hnames (hnone slot)⟩

theorem ofChars_error {fault : InputFault} :
    ofChars text = .error fault ↔
      (∀ slot, ¬ Names (Text.trim text) slot) ∧ fault = .slotName (Text.trim text) := by
  rcases ofChars_cases text with ⟨found, hfound, hread⟩ | ⟨hnone, hread⟩
  · rw [hread]
    exact ⟨nofun, fun h => absurd hfound (h.1 found)⟩
  · rw [hread, Except.error.injEq, eq_comm]
    exact (and_iff_right hnone).symm

/-- Which texts are read as a slot, with or without blanks around them, and as which. Every
other text is refused as no name, and none is cut within a character. The name that a slot is
shown by is read as that slot. -/
theorem ofName_reads :
    (∀ text slot, ofName text = .ok slot ↔ Names (Text.trim text.toList) slot) ∧
    (∀ text e, (ofName text).mapError WalletError.invalidInput = .error e ↔
      (∀ slot, ¬ Names (Text.trim text.toList) slot) ∧
        e = .invalidInput (.slotName (Text.trim text.toList))) ∧
    (∀ text rest, behindLetters? text = some rest →
      String.Pos.Raw.IsValid (String.ofList text) ⟨3⟩) ∧
    ∀ slot, ofName slot.name = .ok slot := by
  refine ⟨fun text slot => ofChars_ok, fun text e => ?_,
    fun text rest => isValid_of_behindLetters?, fun slot => ?_⟩
  · simp only [mapError_error, ofName, ofChars_error]
    constructor
    · rintro ⟨fault, ⟨hnone, rfl⟩, rfl⟩
      exact ⟨hnone, rfl⟩
    · rintro ⟨hnone, rfl⟩
      exact ⟨_, ⟨hnone, rfl⟩, rfl⟩
  · rw [ofName, name, String.toList_ofList]
    exact ofChars_nameChars slot

/-- Letters in two cases, with blanks around them, and a sign in the place of the digit. -/
theorem ofName_reads_mixed :
    behindLetters? "sTr7".toList = some ['7'] ∧
      String.Pos.Raw.IsValid (String.ofList "sTr7".toList) ⟨3⟩ ∧
      ofName " sTr7\n" = .ok ⟨7⟩ ∧ ∀ slot, ¬ Names "Str+".toList slot := by
  have hletters : behindLetters? "sTr7".toList = some ['7'] := by decide
  obtain ⟨hok, herror, hplace, -⟩ := ofName_reads
  refine ⟨hletters, hplace _ _ hletters, ?_, ?_⟩
  · refine (hok _ _).mpr ⟨'7', rfl, rfl, .inr ⟨'s', by decide, 'T', by decide, 'r', by decide, ?_⟩⟩
    decide
  · have htrim : Text.trim "Str+".toList = "Str+".toList := by decide
    have hrefused := (herror "Str+" (.invalidInput (.slotName "Str+".toList))).mp rfl
    rw [htrim] at hrefused
    exact hrefused.1

end SlotWallet.Slot
