/-!
# Lengths and cuts in UTF-8 bytes

Limits on text count bytes of its UTF-8 form, while a cut never divides a
character.
-/

namespace SlotWallet.Text

def utf8Length : List Char → Nat
  | [] => 0
  | c :: rest => c.utf8Size + utf8Length rest

@[simp] theorem utf8Length_nil : utf8Length [] = 0 := rfl

@[simp] theorem utf8Length_cons (c : Char) (text : List Char) :
    utf8Length (c :: text) = c.utf8Size + utf8Length text := rfl

@[simp] theorem utf8Length_append (a b : List Char) :
    utf8Length (a ++ b) = utf8Length a + utf8Length b := by
  induction a with
  | nil => simp
  | cons c rest ih => simp [ih, Nat.add_assoc]

theorem utf8Size_of_ascii {c : Char} (h : c.toNat ≤ 127) : c.utf8Size = 1 :=
  Char.utf8Size_eq_one_iff.mpr (UInt32.le_iff_toNat_le.mpr h)

theorem utf8Length_of_ascii {text : List Char} (h : ∀ c ∈ text, c.toNat ≤ 127) :
    utf8Length text = text.length := by
  induction text with
  | nil => rfl
  | cons c rest ih =>
    obtain ⟨hc, hrest⟩ := List.forall_mem_cons.mp h
    rw [utf8Length_cons, utf8Size_of_ascii hc, ih hrest, List.length_cons, Nat.add_comm]

theorem utf8Length_eq_one {text : List Char} (h : utf8Length text = 1) : ∃ c, text = [c] := by
  match text with
  | [] => contradiction
  | [c] => exact ⟨c, rfl⟩
  | c :: d :: rest =>
    have hc := c.utf8Size_pos
    have hd := d.utf8Size_pos
    simp only [utf8Length_cons] at h
    omega

/-- The longest run of whole characters from the start that takes at most
`limit` bytes. -/
def utf8Take : Nat → List Char → List Char
  | _, [] => []
  | limit, c :: rest =>
    if c.utf8Size ≤ limit then c :: utf8Take (limit - c.utf8Size) rest else []

theorem utf8Length_utf8Take_le (limit : Nat) (text : List Char) :
    utf8Length (utf8Take limit text) ≤ limit := by
  induction text generalizing limit with
  | nil => simp [utf8Take]
  | cons c rest ih =>
    unfold utf8Take
    split
    · have := ih (limit - c.utf8Size)
      simp only [utf8Length_cons]
      omega
    · simp

theorem utf8Take_prefix (limit : Nat) (text : List Char) : utf8Take limit text <+: text := by
  induction text generalizing limit with
  | nil => simp [utf8Take]
  | cons c rest ih =>
    unfold utf8Take
    split
    · simpa using ih _
    · simp

theorem utf8Take_append (before behind : List Char) :
    utf8Take (utf8Length before) (before ++ behind) = before := by
  induction before with
  | nil =>
    cases behind with
    | nil => rfl
    | cons c behind => simp [utf8Take, Nat.ne_of_gt c.utf8Size_pos]
  | cons c before ih => simp [utf8Take, ih]

/-- What is before a place in the bytes of a text and what is behind it, unless the place
divides a character or is beyond the text. -/
def splitAtByte? (place : Nat) (text : List Char) : Option (List Char × List Char) :=
  let before := utf8Take place text
  if utf8Length before = place then some (before, text.drop before.length) else none

theorem splitAtByte?_eq_some {place : Nat} {text before behind : List Char} :
    splitAtByte? place text = some (before, behind) ↔
      text = before ++ behind ∧ utf8Length before = place := by
  constructor
  · intro h
    simp only [splitAtByte?] at h
    split at h
    · rename_i hplace
      have hfront := utf8Take_prefix place text
      simp only [Option.some.injEq, Prod.mk.injEq] at h
      obtain ⟨rfl, rfl⟩ := h
      exact ⟨(List.prefix_iff_eq_append.mp hfront).symm, hplace⟩
    · contradiction
  · rintro ⟨rfl, rfl⟩
    simp [splitAtByte?, utf8Take_append]

def toBytes (text : List Char) : List UInt8 :=
  (String.ofList text).toUTF8.toList

def ofBytes? (bytes : List UInt8) : Option String :=
  String.fromUTF8? ⟨bytes.toArray⟩

theorem toList_loop (bytes : ByteArray) (i : Nat) (before : List UInt8) :
    ByteArray.toList.loop bytes i before = before.reverse ++ bytes.data.toList.drop i := by
  fun_induction ByteArray.toList.loop bytes i before with
  | case1 i before h ih =>
    have hi : i < bytes.data.toList.length := h
    have hget : bytes.get! i = bytes.data.toList[i] := by
      rw [ByteArray.get!, Array.getElem_toList, getElem!_pos bytes.data i h]
    rw [ih, hget, List.reverse_cons, List.append_assoc, List.drop_eq_getElem_cons hi]
    rfl
  | case2 i before h =>
    rw [List.drop_eq_nil_of_le (Nat.le_of_not_lt h), List.append_nil]

theorem ofBytes?_toBytes (text : List Char) :
    ofBytes? (toBytes text) = some (String.ofList text) := by
  have hbytes : (toBytes text).toArray = (String.ofList text).toUTF8.data := by
    rw [toBytes, ByteArray.toList, toList_loop]
    rfl
  rw [ofBytes?, hbytes]
  exact dif_pos (String.ofList text).isValidUTF8

end SlotWallet.Text
