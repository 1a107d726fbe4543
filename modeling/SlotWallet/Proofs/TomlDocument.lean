import SlotWallet.Proofs.TomlString
import SlotWallet.Toml.Grammar

/-!
# Documents of assignments are read back

A document that has one assignment a line, each of a text or of a number that fits 64 bits
with its sign, is read as a table with these members in this order, provided that the keys are
bare and that no two of them agree (`readDocument?_document`).
-/

namespace SlotWallet.Toml

open Grammar
open Decimal (readSign)

variable {n : Nat} {rest digits : List Char}

-- ---------------------------------------------------------------------------
-- Numbers
-- ---------------------------------------------------------------------------

theorem head?_ofNat (hn : n ≠ 0) : (Decimal.ofNat n).head? ≠ some '0' := by
  fun_induction Decimal.ofNat n with
  | case1 n hlt =>
    revert hn
    revert n
    decide
  | case2 n hle ih =>
    rw [List.head?_append, Option.or_of_isSome (by simp [Decimal.ofNat_ne_nil])]
    exact ih (by omega)

theorem isGrouped_digits (hne : digits ≠ []) (h : ∀ c ∈ digits, c.isDigit) :
    isGrouped Char.isDigit digits = true := by
  fun_induction isGrouped Char.isDigit digits with
  | case1 => contradiction
  | case2 c => exact h c List.mem_cons_self
  | case3 c rest ih => simp at h
  | case4 c rest hone hgroup ih => simp_all

theorem isPlainWhole_ofNat (n : Nat) : isPlainWhole (Decimal.ofNat n) = true := by
  have hdigits : ∀ c ∈ Decimal.ofNat n, c.isDigit := fun _ => Decimal.isDigit_of_mem_ofNat
  rw [isPlainWhole, isGrouped_digits (Decimal.ofNat_ne_nil n) hdigits, Bool.true_and]
  by_cases hn : n = 0
  · simp [hn, Decimal.ofNat]
  · simp [head?_ofNat hn]

theorem date?_digits (h : ∀ c ∈ digits, c.isDigit) : date? digits = none := by
  unfold date?
  split
  next => simp at h
  next => rfl

theorem time?_digits (h : ∀ c ∈ digits, c.isDigit) : time? digits = none := by
  unfold time? twoDigits?
  split
  next a b more =>
    simp only [List.mem_cons, forall_eq_or_imp] at h
    simp only [h, Bool.and_self, if_true, Option.bind_eq_bind, Option.bind_some]
    split
    next => simp at h
    next => rfl
  next => rfl

theorem isDatetime_digits (h : ∀ c ∈ digits, c.isDigit) : isDatetime digits = false := by
  simp [isDatetime, date?_digits h, time?_digits h]

theorem readInteger?_ofNat (hfits : fitsSigned n) :
    readInteger? (Decimal.ofNat n) = some (.integer n) := by
  have hdigits : ∀ c ∈ Decimal.ofNat n, c.isDigit := fun _ => Decimal.isDigit_of_mem_ofNat
  have hplain := isPlainWhole_ofNat n
  have hungroup : ungroup (Decimal.ofNat n) = Decimal.ofNat n := by
    refine List.filter_eq_self.mpr fun c hc => decide_eq_true ?_
    rintro rfl
    exact absurd (hdigits _ hc) (by decide)
  have hvalue := Decimal.value_ofNat n
  generalize Decimal.ofNat n = digits at *
  have hsign : readSign digits = (false, digits) := by
    unfold readSign
    split
    next => simp at hdigits
    next => simp at hdigits
    next => rfl
  unfold readInteger?
  split
  next => simp at hdigits
  next => simp at hdigits
  next => simp at hdigits
  next => simp [hsign, hplain, hungroup, hvalue, integerOf?, hfits]

theorem ofLiteral?_ofNat (hfits : fitsSigned n) :
    ofLiteral? (Decimal.ofNat n) = some (.integer n) := by
  have hdigits : ∀ c ∈ Decimal.ofNat n, c.isDigit := fun _ => Decimal.isDigit_of_mem_ofNat
  have hword : ∀ word : List Char, word.all Char.isDigit = false →
      Decimal.ofNat n ≠ word := by
    rintro word hword rfl
    exact absurd (List.all_eq_true.mpr hdigits) (by simp [hword])
  rw [ofLiteral?, if_neg (hword _ (by decide)), if_neg (hword _ (by decide)),
    isDatetime_digits hdigits, readInteger?_ofNat hfits]
  rfl

theorem readLiteralValue_ofNat (hfits : fitsSigned n) (rest : List Char) :
    readLiteralValue (Decimal.ofNat n ++ '\n' :: rest) = some (.integer n, '\n' :: rest) := by
  have hliteral : ∀ c ∈ Decimal.ofNat n, isLiteralChar c := by
    intro c hc
    have hdigit := Decimal.isDigit_of_mem_ofNat hc
    simp [isLiteralChar, Char.isAlphanum, hdigit]
  rw [readLiteralValue, List.takeWhile_append_of_pos hliteral,
    List.dropWhile_append_of_pos hliteral]
  simp [isLiteralChar, ofLiteral?_ofNat hfits]

-- ---------------------------------------------------------------------------
-- Values
-- ---------------------------------------------------------------------------

theorem head?_stringChars (text : List Char) :
    (stringChars text).head? = some '"' ∨ (stringChars text).head? = some '\'' := by
  unfold stringChars
  split <;> simp

theorem skipBlanks_cons {c : Char} (h : isBlank c = false) :
    skipBlanks (c :: rest) = c :: rest := by
  rw [skipBlanks, List.dropWhile_cons_of_neg (by simp [h])]

theorem readValue_stringChars (fuel depth : Nat) (text rest : List Char) :
    readValue (fuel + 1) depth (skipBlanks (stringChars text ++ '\n' :: rest)) =
      some (.string (String.ofList text), '\n' :: rest) := by
  have hread : readString (stringChars text ++ '\n' :: rest) = some (text, '\n' :: rest) :=
    readString_stringChars (by simp) (by simp)
  have hquote := head?_stringChars text
  cases hform : stringChars text with
  | nil => simp [hform] at hquote
  | cons c more =>
    rw [hform, List.cons_append] at hread
    rw [hform] at hquote
    obtain ⟨⟨⟩⟩ | ⟨⟨⟩⟩ := hquote
    · rw [List.cons_append, skipBlanks_cons rfl]
      simp [readValue, hread]
    · rw [List.cons_append, skipBlanks_cons rfl]
      simp [readValue, hread]

theorem readValue_ofNat (hfits : fitsSigned n) (fuel depth : Nat) (rest : List Char) :
    readValue (fuel + 1) depth (skipBlanks (Decimal.ofNat n ++ '\n' :: rest)) =
      some (.integer n, '\n' :: rest) := by
  have hread := readLiteralValue_ofNat hfits rest
  have hdigits := Decimal.all_isDigit_ofNat n
  cases hform : Decimal.ofNat n with
  | nil => exact absurd hform (Decimal.ofNat_ne_nil n)
  | cons c more =>
    rw [hform, List.cons_append] at hread
    rw [hform, List.all_cons, Bool.and_eq_true] at hdigits
    have hne : ∀ d : Char, d.isDigit = false → c ≠ d := by
      rintro d hd rfl
      exact absurd hdigits.1 (by simp [hd])
    have hblank : isBlank c = false := by simp [isBlank, hne]
    have hbracket := hne '[' rfl
    have hbrace := hne '\x7b' rfl
    rw [List.cons_append, skipBlanks_cons hblank]
    simp [readValue, hne, hread]

-- ---------------------------------------------------------------------------
-- Lines
-- ---------------------------------------------------------------------------

/-- One line of a document, and what it says. -/
structure Assignment where
  key : String
  text : List Char
  value : Toml
  bare : key.toList ≠ [] ∧ key.toList.all isBareKeyChar = true
  /-- The text up to the line end is read as the value, wherever a value may stand. -/
  reads : ∀ fuel depth rest, readValue (fuel + 1) depth (skipBlanks (text ++ '\n' :: rest)) =
    some (value, '\n' :: rest)

namespace Assignment

def line (a : Assignment) : List Char := assignment a.key.toList a.text

def ofText (key text : String)
    (bare : key.toList ≠ [] ∧ key.toList.all isBareKeyChar = true) : Assignment where
  key
  text := stringChars text.toList
  value := .string text
  bare
  reads fuel depth rest := by
    rw [readValue_stringChars, String.ofList_toList]

def ofNumber (key : String) (n : Nat) (fits : fitsSigned n)
    (bare : key.toList ≠ [] ∧ key.toList.all isBareKeyChar = true) : Assignment where
  key
  text := Decimal.ofNat n
  value := .integer n
  bare
  reads := readValue_ofNat fits

theorem exists_line_eq (a : Assignment) :
    ∃ c more, a.line = c :: more ∧ ∀ d, isBareKeyChar d = false → c ≠ d := by
  obtain ⟨hne, hbare⟩ := a.bare
  rw [List.all_eq_true] at hbare
  cases hkey : a.key.toList with
  | nil => contradiction
  | cons c more =>
    refine ⟨c, more ++ [' ', '=', ' '] ++ a.text ++ ['\n'], ?_, ?_⟩
    · simp [line, assignment, hkey]
    · rintro d hd rfl
      exact absurd (hbare c (hkey ▸ List.mem_cons_self)) (by simp [hd])

theorem skipBlanks_line (a : Assignment) (rest : List Char) :
    skipBlanks (a.line ++ rest) = a.line ++ rest := by
  obtain ⟨c, more, hline, hc⟩ := a.exists_line_eq
  have hblank : isBlank c = false := by simp [isBlank, hc ' ' rfl, hc '\t' rfl]
  rw [hline, List.cons_append, skipBlanks_cons hblank]

theorem readKeyPart_line (a : Assignment) (rest : List Char) :
    readKeyPart (a.line ++ rest) = some (a.key, ' ' :: '=' :: ' ' :: (a.text ++ '\n' :: rest)) := by
  obtain ⟨hne, hbare⟩ := a.bare
  rw [List.all_eq_true] at hbare
  obtain ⟨c, more, hline, hc⟩ := a.exists_line_eq
  have hform : a.line ++ rest = a.key.toList ++ ' ' :: '=' :: ' ' :: (a.text ++ '\n' :: rest) := by
    simp [line, assignment]
  have hd := hc '"' rfl
  have hs := hc '\'' rfl
  unfold readKeyPart
  split
  next h => simp_all
  next h => simp_all
  next =>
    rw [hform, List.takeWhile_append_of_pos hbare, List.dropWhile_append_of_pos hbare]
    simp [isBareKeyChar, hne]

theorem readKey_line (a : Assignment) (rest : List Char) :
    readKey (a.line ++ rest) = some ([a.key], '=' :: ' ' :: (a.text ++ '\n' :: rest)) := by
  rw [readKey, readKeyParts, a.skipBlanks_line, a.readKeyPart_line]
  simp [skipBlanks, isBlank, depthLimit]

theorem readStatement_line (a : Assignment) (rest : List Char) :
    readStatement (a.line ++ rest) = some (.assign [a.key] a.value, rest) := by
  have hkey := a.readKey_line rest
  obtain ⟨c, more, hline, hc⟩ := a.exists_line_eq
  have hbracket := hc '[' rfl
  unfold readStatement
  split
  next h => simp_all
  next h => simp_all
  next =>
    have hvalue := a.reads (2 * (' ' :: (a.text ++ '\n' :: rest)).length + 1) (depthLimit - 1) rest
    simp only [hkey, Option.bind_eq_bind, Option.bind_some]
    rw [show skipBlanks (' ' :: (a.text ++ '\n' :: rest)) = skipBlanks (a.text ++ '\n' :: rest)
      from rfl, hvalue]
    rfl

end Assignment

-- ---------------------------------------------------------------------------
-- Documents
-- ---------------------------------------------------------------------------

def document (lines : List Assignment) : List Char := lines.flatMap Assignment.line

@[simp] theorem document_cons (a : Assignment) (lines : List Assignment) :
    document (a :: lines) = a.line ++ document lines := List.flatMap_cons

theorem readStatements_document {fuel : Nat} {lines : List Assignment}
    (h : lines.length < fuel) :
    readStatements fuel (document lines) =
      some (lines.map fun a => .assign [a.key] a.value) := by
  induction lines generalizing fuel with
  | nil =>
    cases fuel with
    | zero => simp at h
    | succ fuel => rfl
  | cons a lines ih =>
    cases fuel with
    | zero => simp at h
    | succ fuel =>
      obtain ⟨c, more, hline, hc⟩ := a.exists_line_eq
      have hlf := hc '\n' rfl
      have hcr := hc '\r' rfl
      have hcomment := hc '#' rfl
      have hrest := ih (Nat.lt_of_succ_lt_succ h)
      rw [document_cons, readStatements, a.skipBlanks_line]
      split
      next h => simp_all
      next h => simp_all
      next h => simp_all
      next h => simp_all
      next => simp [a.readStatement_line, hrest]

theorem build?_assign {root : Members} {lines : List Assignment}
    (h : (root.map (·.1) ++ lines.map (·.key)).Nodup) :
    build? root [] (lines.map fun a => .assign [a.key] a.value) =
      some (root ++ lines.map fun a => (a.key, a.value)) := by
  induction lines generalizing root with
  | nil => simp [build?]
  | cons a lines ih =>
    have hnew : root.lookup a.key = none := by
      refine List.lookup_eq_none_iff.mpr fun m hm => ?_
      have hdisjoint := (List.nodup_append.mp h).2.2
      have hne := hdisjoint m.1 (List.mem_map_of_mem hm) a.key List.mem_cons_self
      simpa using hne.symm
    have hadd : Statement.apply? root [] (.assign [a.key] a.value) =
        some (root ++ [(a.key, a.value)], []) := by
      simp [ Statement.apply?, changeAt?, addDotted?, add?, hnew]
    rw [List.map_cons, build?, hadd]
    have hrest : build? (root ++ [(a.key, a.value)]) []
        (lines.map fun a => .assign [a.key] a.value) = _ := ih (by simpa using h)
    simpa using hrest

theorem length_le_document (lines : List Assignment) :
    lines.length ≤ (document lines).length := by
  induction lines with
  | nil => exact Nat.le_refl 0
  | cons a lines ih =>
    obtain ⟨c, more, hline, -⟩ := a.exists_line_eq
    rw [document_cons, hline]
    simp only [List.length_cons, List.length_append]
    omega

theorem head?_document {lines : List Assignment} {d : Char} (hd : isBareKeyChar d = false) :
    (document lines).head? ≠ some d := by
  cases lines with
  | nil => exact nofun
  | cons a lines =>
    obtain ⟨c, more, hline, hc⟩ := a.exists_line_eq
    rw [document_cons, hline]
    simpa using hc d hd

theorem readDocument?_eq {text : List Char} (h : text.head? ≠ some (Char.ofNat 0xFEFF)) :
    readDocument? text = (readStatements (text.length + 1) text).bind (build? [] []) := by
  cases text with
  | nil => rfl
  | cons c text =>
    have hmark : c.toNat ≠ 0xFEFF := by
      intro hc
      exact h (by rw [← hc, Char.ofNat_toNat]; rfl)
    simp only [readDocument?, if_neg hmark]
    rfl

theorem readDocument?_document {lines : List Assignment} (h : (lines.map (·.key)).Nodup) :
    readDocument? (document lines) = some (lines.map fun a => (a.key, a.value)) := by
  rw [readDocument?_eq (head?_document (by decide)),
    readStatements_document (Nat.lt_succ_of_le (length_le_document lines))]
  exact build?_assign h

theorem lookup_of_mem {lines : List Assignment} {a : Assignment} (h : (lines.map (·.key)).Nodup)
    (ha : a ∈ lines) : (lines.map fun a => (a.key, a.value)).lookup a.key = some a.value := by
  induction lines with
  | nil => contradiction
  | cons first lines ih =>
    obtain ⟨hfirst, hrest⟩ := List.nodup_cons.mp h
    rw [List.map_cons, List.lookup_cons]
    obtain rfl | ha := List.mem_cons.mp ha
    · simp
    · have hne : (a.key == first.key) = false := by
        rw [beq_eq_false_iff_ne]
        exact fun heq => hfirst (List.mem_map.mpr ⟨a, ha, heq⟩)
      rw [hne]
      exact ih hrest ha

end SlotWallet.Toml
