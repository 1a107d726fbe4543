import SlotWallet.Text.CombiningClass
import SlotWallet.Text.Decomposition

/-!
# The composed form of a text

Texts that are canonically the same have one composed form: every character is
taken apart, the marks behind a letter are sorted by class, those of one class in
the order given, and then a letter takes in each mark it can be put together with
that no mark of its own class separates from it.
-/

namespace SlotWallet.Text

def composeHangul? (a b : Char) : Option Char :=
  let leading := a.toNat - Hangul.firstLeading
  let vowel := b.toNat - Hangul.firstVowel
  let trailing := b.toNat - Hangul.noTrailing
  if Hangul.firstLeading ≤ a.toNat ∧ leading < Hangul.leadingCount ∧
      Hangul.firstVowel ≤ b.toNat ∧ vowel < Hangul.vowelCount then
    some (Hangul.toChar ⟨leading, vowel, 0⟩)
  else
    match Hangul.ofChar? a with
    | some syllable =>
      if syllable.trailing = 0 ∧ Hangul.noTrailing < b.toNat ∧ trailing < Hangul.trailingCount then
        some { syllable with trailing }.toChar
      else none
    | none => none

def composePair? (a b : Char) : Option Char :=
  if b.toNat < firstMark then none
  else
    (composeHangul? a b).or <|
      (decompositionRuns.find? fun run =>
        match run.value with
        | .pair letter mark => letter = a && mark = b
        | .lasting _ => false).map fun run => Char.ofNat run.first

def insertMark (c : Char) : List Char → List Char
  | [] => [c]
  | d :: rest =>
    if 0 < combiningClass d ∧ combiningClass d < combiningClass c then d :: insertMark c rest
    else c :: d :: rest

def sortMarks (text : List Char) : List Char := text.foldr insertMark []

/-- Puts a text together behind a starting character and marks that it did not take
in, the last of them first; `last` is the class of that one. -/
def composeFrom (start : Char) (left : List Char) (last : Nat) : List Char → List Char
  | [] => start :: left.reverse
  | c :: rest =>
    let own := combiningClass c
    match if left = [] ∨ last < own then composePair? start c else none with
    | some composed => composeFrom composed left last rest
    | none =>
      if own = 0 then start :: left.reverse ++ composeFrom c [] 0 rest
      else composeFrom start (c :: left) own rest

/-- Marks in front of the first starting character stay as they are. -/
def composeText : List Char → List Char
  | [] => []
  | c :: rest => if combiningClass c = 0 then composeFrom c [] 0 rest else c :: composeText rest

def composedForm (text : List Char) : List Char :=
  composeText (sortMarks (text.flatMap decompose))

theorem insertMark_perm (c : Char) (text : List Char) : (insertMark c text).Perm (c :: text) := by
  induction text with
  | nil => exact .refl _
  | cons d rest ih =>
    unfold insertMark
    split
    · exact (ih.cons d).trans (.swap c d rest)
    · exact .refl _

theorem sortMarks_perm (text : List Char) : (sortMarks text).Perm text := by
  induction text with
  | nil => exact .refl _
  | cons c rest ih => exact (insertMark_perm c _).trans (ih.cons c)

end SlotWallet.Text
