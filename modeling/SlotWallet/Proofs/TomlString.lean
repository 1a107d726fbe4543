import SlotWallet.Toml.Text
import SlotWallet.Toml.Writer

/-!
# Strings are read back

Every text is read back from the form it is written in, whatever comes behind it but a quote
(`readString_stringChars`). Between double quotes a character is written as it is or as an escape
of it (`Escaped`), so those forms do for every text; the forms between single quotes do for the
texts that they are chosen for.
-/

namespace SlotWallet.Toml

variable {c : Char} {form text rest tail : List Char}

-- ---------------------------------------------------------------------------
-- Escapes
-- ---------------------------------------------------------------------------

/-- How a character may be written between double quotes. -/
inductive Escaped (c : Char) : List Char → Prop
  | plain : c ≠ '"' → c ≠ '\\' → isControl c = false → Escaped c [c]
  | letter {e : Char} : shortEscape? e = some c → Escaped c ['\\', e]
  | number {a b : Char} :
      charOfHex? ['0', '0', a, b] = some c → Escaped c ['\\', 'u', '0', '0', a, b]

theorem charOfHex?_digits : ∀ n < 128, charOfHex? ['0', '0', (Nat.digitChar (n / 16)).toUpper,
    (Nat.digitChar (n % 16)).toUpper] = some (Char.ofNat n) := by
  decide

theorem escaped_escapeControl (hq : c ≠ '"') : Escaped c (escapeControl c) := by
  have hof : ∀ {n}, c.toNat = n → Char.ofNat n = c := by
    rintro _ rfl
    exact Char.ofNat_toNat c
  unfold escapeControl
  split
  next h => exact .letter (congrArg some (hof h))
  split
  next h => subst h; exact .letter rfl
  split
  next h => subst h; exact .letter rfl
  split
  next h => exact .letter (congrArg some (hof h))
  split
  next h => subst h; exact .letter rfl
  split
  next h => subst h; exact .letter rfl
  next hb =>
    split
    next h => exact .number ((charOfHex?_digits c.toNat (by omega)).trans (congrArg some (hof rfl)))
    next h => exact .plain hq hb (by simp_all [isControl])

theorem Escaped.readBasic (h : Escaped c form) (hrest : Toml.readBasic rest = some (text, tail)) :
    Toml.readBasic (form ++ rest) = some (c :: text, tail) := by
  cases h with
  | plain hq hb hc =>
    change Toml.readBasic (c :: rest) = _
    rw [readBasic.eq_def]
    split <;> simp_all
  | @letter e he =>
    have hu : e ≠ 'u' := by rintro rfl; contradiction
    have hU : e ≠ 'U' := by rintro rfl; contradiction
    simp [Toml.readBasic, hu, hU, he, hrest]
  | number hab => simp [Toml.readBasic, hab, hrest]

theorem Escaped.readLongBasic (h : Escaped c form)
    (hrest : Toml.readLongBasic false rest = some (text, tail)) :
    Toml.readLongBasic false (form ++ rest) = some (c :: text, tail) := by
  cases h with
  | plain hq hb hc =>
    have hr : c ≠ '\r' := by rintro rfl; contradiction
    change Toml.readLongBasic false (c :: rest) = _
    rw [readLongBasic.eq_def]
    split <;> simp_all
  | @letter e he =>
    have hu : e ≠ 'u' := by rintro rfl; contradiction
    have hU : e ≠ 'U' := by rintro rfl; contradiction
    have hline : endsLine (e :: rest) = false := by
      rw [endsLine.eq_def]
      split
      next h => cases h; contradiction
      next h => cases h; contradiction
      next h =>
        cases h
        rw [if_neg (by rintro (rfl | rfl) <;> contradiction)]
      next => rfl
    simp [Toml.readLongBasic, hu, hU, he, hline, hrest]
  | number hab => simp [Toml.readLongBasic, hab, hrest]

theorem Escaped.head?_ne {d : Char} (h : Escaped c form) (hd : d = '"' ∨ isControl d = true) :
    (form ++ rest).head? ≠ some d := by
  cases h with
  | plain hq hb hc =>
    rintro ⟨⟩
    simp_all
  | letter | number =>
    rintro ⟨⟩
    revert hd
    decide

-- ---------------------------------------------------------------------------
-- Double quotes
-- ---------------------------------------------------------------------------

theorem escaped_basic : Escaped c (if c = '"' then ['\\', '"'] else escapeControl c) := by
  split
  next hq => subst hq; exact .letter rfl
  next hq => exact escaped_escapeControl hq

theorem readBasic_basicBody (text rest : List Char) :
    readBasic (basicBody text ++ '"' :: rest) = some (text, rest) := by
  induction text with
  | nil => simp [basicBody, readBasic]
  | cons c text ih =>
    rw [basicBody, List.flatMap_cons, List.append_assoc]
    exact escaped_basic.readBasic ih

/-- A double quote that is not the first of three counts as text. -/
theorem readLongBasic_quote (hq : ∀ more, rest ≠ '"' :: '"' :: more)
    (hrest : readLongBasic false rest = some (text, tail)) :
    readLongBasic false ('"' :: rest) = some ('"' :: text, tail) := by
  rw [readLongBasic.eq_def]
  split <;> simp_all
  rename_i h
  obtain ⟨rfl, rfl⟩ := h
  simp [isControl]

theorem readLongBasic_newline (hrest : readLongBasic false rest = some (text, tail)) :
    readLongBasic false ('\n' :: rest) = some ('\n' :: text, tail) := by
  simp [readLongBasic, hrest]

theorem head?_longBasicBody {seen : Nat} (h : c = '"' → seen = 2) :
    (longBasicBody seen (c :: text) ++ rest).head? ≠ some '"' := by
  rw [longBasicBody]
  split
  next hq => simp [h hq]
  next hq =>
    split
    next => simp
    next =>
      rw [List.append_assoc]
      exact (escaped_escapeControl hq).head?_ne (.inl rfl)

theorem readLongBasic_closing (hrest : rest.head? ≠ some '"') :
    readLongBasic false ('"' :: '"' :: '"' :: rest) = some ([], rest) ∧
      readLongBasic false ('"' :: '"' :: '"' :: '"' :: rest) = some (['"'], rest) := by
  cases rest with
  | nil => exact ⟨rfl, rfl⟩
  | cons c rest => simp_all [readLongBasic]

theorem readLongBasic_cons_quote {seen : Nat} (hseen : seen < 2) (hrest : rest.head? ≠ some '"')
    (hread : readLongBasic false (longBasicBody (seen + 1) text ++ '"' :: '"' :: '"' :: rest) =
      some (text, rest)) :
    readLongBasic false ('"' :: (longBasicBody (seen + 1) text ++ '"' :: '"' :: '"' :: rest)) =
      some ('"' :: text, rest) := by
  cases text with
  | nil => exact (readLongBasic_closing hrest).2
  | cons c text =>
    by_cases hc : c = '"' → seen + 1 = 2
    · refine readLongBasic_quote (fun more h => ?_) hread
      exact head?_longBasicBody hc (congrArg List.head? h)
    -- a second quote of at most two, and the text ends there or goes on with something else
    obtain ⟨rfl, hone⟩ := Classical.not_imp.mp hc
    obtain rfl : seen = 0 := by omega
    cases text with
    | nil => simp [longBasicBody, readLongBasic]
    | cons d text =>
      refine readLongBasic_quote (fun more h => ?_) hread
      have hmore := congrArg List.head? (List.tail_eq_of_cons_eq h)
      exact head?_longBasicBody (fun _ => rfl) hmore

theorem readLongBasic_longBasicBody {seen : Nat} (hseen : seen ≤ 2)
    (hrest : rest.head? ≠ some '"') :
    readLongBasic false (longBasicBody seen text ++ '"' :: '"' :: '"' :: rest) =
      some (text, rest) := by
  induction text generalizing seen with
  | nil => exact (readLongBasic_closing hrest).1
  | cons c text ih =>
    rw [longBasicBody]
    split
    next hq =>
      subst hq
      split
      next =>
        have hform : Escaped '"' ['\\', '"'] := .letter rfl
        exact hform.readLongBasic (ih (Nat.zero_le 2))
      next hne => exact readLongBasic_cons_quote (by omega) hrest (ih (by omega))
    next hq =>
      split
      next hn =>
        subst hn
        exact readLongBasic_newline (ih (Nat.zero_le 2))
      next =>
        rw [List.append_assoc]
        exact (escaped_escapeControl hq).readLongBasic (ih (Nat.zero_le 2))

-- ---------------------------------------------------------------------------
-- Single quotes
-- ---------------------------------------------------------------------------

theorem readLiteral_append (rest : List Char)
    (h : ∀ c ∈ text, c ≠ '\'' ∧ isControl c = false) :
    readLiteral (text ++ '\'' :: rest) = some (text, rest) := by
  induction text with
  | nil => simp [readLiteral]
  | cons c text ih =>
    obtain ⟨hq, hc⟩ := h c List.mem_cons_self
    simp [readLiteral, hc, ih fun d hd => h d (List.mem_cons_of_mem c hd)]

theorem readLongLiteral_quote (hq : ∀ more, rest ≠ '\'' :: '\'' :: more)
    (hrest : readLongLiteral rest = some (text, tail)) :
    readLongLiteral ('\'' :: rest) = some ('\'' :: text, tail) := by
  rw [readLongLiteral.eq_def]
  split <;> simp_all
  rename_i h
  obtain ⟨rfl, rfl⟩ := h
  simp [isControl]

theorem readLongLiteral_plain (hq : c ≠ '\'') (hc : needsEscape c = false)
    (hrest : readLongLiteral rest = some (text, tail)) :
    readLongLiteral (c :: rest) = some (c :: text, tail) := by
  have hr : c ≠ '\r' := by rintro rfl; contradiction
  rw [readLongLiteral.eq_def]
  split <;> simp_all [isControl, needsEscape]

theorem readLongLiteral_closing (hrest : rest.head? ≠ some '\'') :
    readLongLiteral ('\'' :: '\'' :: '\'' :: rest) = some ([], rest) ∧
      readLongLiteral ('\'' :: '\'' :: '\'' :: '\'' :: rest) = some (['\''], rest) := by
  cases rest with
  | nil => exact ⟨rfl, rfl⟩
  | cons c rest => simp_all [readLongLiteral]

theorem readLongLiteral_cons_quote (hruns : ∀ more, text ≠ '\'' :: '\'' :: more)
    (hrest : rest.head? ≠ some '\'')
    (hread : readLongLiteral (text ++ '\'' :: '\'' :: '\'' :: rest) = some (text, rest)) :
    readLongLiteral ('\'' :: (text ++ '\'' :: '\'' :: '\'' :: rest)) =
      some ('\'' :: text, rest) := by
  cases text with
  | nil => exact (readLongLiteral_closing hrest).2
  | cons c text =>
    cases text with
    | nil =>
      by_cases hc : c = '\''
      · subst hc
        simp [readLongLiteral]
      · exact readLongLiteral_quote (fun more h => hc (List.cons.inj h).1) hread
    | cons d text =>
      refine readLongLiteral_quote (fun more h => ?_) hread
      cases h
      exact hruns text rfl

theorem readLongLiteral_append {seen : Nat} (hcontrols : text.any needsEscape = false)
    (hruns : runExceeds '\'' 2 seen text = false) (hrest : rest.head? ≠ some '\'') :
    readLongLiteral (text ++ '\'' :: '\'' :: '\'' :: rest) = some (text, rest) := by
  induction text generalizing seen with
  | nil => exact (readLongLiteral_closing hrest).1
  | cons c text ih =>
    rw [List.any_cons, Bool.or_eq_false_iff] at hcontrols
    rw [runExceeds] at hruns
    split at hruns
    next hq =>
      subst hq
      obtain ⟨-, hruns⟩ := Bool.or_eq_false_iff.mp hruns
      refine readLongLiteral_cons_quote ?_ hrest (ih hcontrols.2 hruns)
      rintro more rfl
      simp [runExceeds] at hruns
    next hq => exact readLongLiteral_plain hq hcontrols.1 (ih hcontrols.2 hruns)

-- ---------------------------------------------------------------------------
-- Every form
-- ---------------------------------------------------------------------------

theorem not_mem_of_runExceeds {seen : Nat} (h : runExceeds c 0 seen text = false) : c ∉ text := by
  induction text generalizing seen with
  | nil => exact List.not_mem_nil
  | cons d text ih =>
    rw [runExceeds] at h
    split at h
    next => simp at h
    next hd => simpa [Ne.symm hd] using ih h

theorem StringForm.ofText_literal (h : ofText text = .literal) :
    text ≠ [] ∧ ∀ c ∈ text, c ≠ '\'' ∧ isControl c = false := by
  simp only [ofText] at h
  split at h
  next => contradiction
  next hbasic =>
    split at h
    next hliteral =>
      simp only [Bool.and_eq_true, Bool.not_eq_true', List.any_eq_false] at hliteral
      obtain ⟨⟨hcontrols, hnewline⟩, hquotes⟩ := hliteral
      refine ⟨?_, fun c hc => ⟨?_, ?_⟩⟩
      · rintro rfl
        contradiction
      · rintro rfl
        exact not_mem_of_runExceeds hquotes hc
      · have hcontrol := hcontrols c hc
        have hline := hnewline c hc
        simp_all [isControl, needsEscape]
    next =>
      repeat' split at h
      all_goals contradiction

theorem StringForm.ofText_longLiteral (h : ofText text = .longLiteral) :
    text.any needsEscape = false ∧ runExceeds '\'' 2 0 text = false := by
  simp only [ofText] at h
  repeat' split at h
  all_goals simp_all

theorem skipLineEnd_opening (h : '\n' ∉ text →
    rest.head? ≠ some '\n' ∧ rest.head? ≠ some '\r') :
    skipLineEnd (opening text ++ rest) = rest := by
  unfold opening
  split
  next => rfl
  next hn =>
    obtain ⟨hn, hr⟩ := h (by simpa using hn)
    rw [List.nil_append, skipLineEnd.eq_def]
    split <;> simp_all

theorem readString_basic (h : ∀ more, rest ≠ '"' :: '"' :: more) :
    readString ('"' :: rest) = readBasic rest := by
  rw [readString.eq_def]
  split <;> simp_all

theorem readString_literal (h : ∀ more, rest ≠ '\'' :: '\'' :: more) :
    readString ('\'' :: rest) = readLiteral rest := by
  rw [readString.eq_def]
  split <;> simp_all

theorem readString_stringChars (hd : rest.head? ≠ some '"') (hs : rest.head? ≠ some '\'') :
    readString (stringChars text ++ rest) = some (text, rest) := by
  unfold stringChars
  split
  next h =>
    simp only [List.append_assoc, List.cons_append, List.nil_append]
    rw [readString_basic, readBasic_basicBody]
    intro more hmore
    cases text with
    | nil => exact hd (congrArg List.head? (List.tail_eq_of_cons_eq hmore))
    | cons c text =>
      rw [basicBody, List.flatMap_cons, List.append_assoc] at hmore
      exact escaped_basic.head?_ne (.inl rfl) (congrArg List.head? hmore)
  next h =>
    obtain ⟨hne, hchars⟩ := StringForm.ofText_literal h
    simp only [List.append_assoc, List.cons_append, List.nil_append]
    rw [readString_literal, readLiteral_append rest hchars]
    intro more hmore
    cases text with
    | nil => exact hne rfl
    | cons c text => exact (hchars c List.mem_cons_self).1 (List.cons.inj hmore).1
  next h =>
    simp only [List.append_assoc, List.cons_append, List.nil_append]
    rw [readString, skipLineEnd_opening, readLongBasic_longBasicBody (Nat.zero_le 2) hd]
    intro hline
    cases text with
    | nil => simp [longBasicBody]
    | cons c text =>
      have hn : c ≠ '\n' := fun h => hline (h ▸ List.mem_cons_self)
      rw [longBasicBody, if_neg hn]
      split
      next => simp
      next hq =>
        have hform := escaped_escapeControl hq
        rw [List.append_assoc]
        exact ⟨hform.head?_ne (.inr rfl), hform.head?_ne (.inr rfl)⟩
  next h =>
    obtain ⟨hcontrols, hruns⟩ := StringForm.ofText_longLiteral h
    simp only [List.append_assoc, List.cons_append, List.nil_append]
    rw [readString, skipLineEnd_opening, readLongLiteral_append hcontrols hruns hs]
    intro hline
    cases text with
    | nil => simp
    | cons c text =>
      have hn : c ≠ '\n' := fun h => hline (h ▸ List.mem_cons_self)
      have hr : c ≠ '\r' := by
        rintro rfl
        simp [needsEscape] at hcontrols
      simp [hn, hr]

end SlotWallet.Toml
