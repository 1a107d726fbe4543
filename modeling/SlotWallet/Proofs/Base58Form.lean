import Mathlib.Data.Set.Function
import SlotWallet.Proofs.Base58

/-!
# Every text over the alphabet is the form of one byte string

A text is read if all of its characters are in the alphabet (`decodeChars_error` tells
what is wrong with any other), so reading and writing go both ways between byte strings
and these texts (`encode_bijOn`). A key thus has one address, up to blanks around it.
-/

namespace SlotWallet.Base58

variable {text : List Char} {fault : InputFault}

-- ---------------------------------------------------------------------------
-- Texts that are refused
-- ---------------------------------------------------------------------------

/-- What is wrong with a text: its first character beyond the alphabet, and the bytes in
front of it. -/
inductive Refused (text : List Char) : InputFault → Prop
  | character {before after : List Char} {c : Char} : text = before ++ c :: after →
      (∀ d ∈ before, d ∈ alphabet) → c ∉ alphabet → c.toNat < 128 →
      Refused text (.base58Character c before.length)
  | nonAscii {before after : List Char} {c : Char} : text = before ++ c :: after →
      (∀ d ∈ before, d ∈ alphabet) → c ∉ alphabet → 128 ≤ c.toNat →
      Refused text (.base58NonAscii before.length)

theorem digitValue?_eq_none {c : Char} : digitValue? c = none ↔ c ∉ alphabet :=
  List.idxOf?_eq_none_iff

theorem mem_alphabet_of_digitValue? {c : Char} {d : Nat} (h : digitValue? c = some d) :
    c ∈ alphabet := by
  by_contra hc
  rw [digitValue?_eq_none.mpr hc] at h
  contradiction

theorem digit_mem_alphabet {d : Nat} (h : d < 58) : digit d ∈ alphabet :=
  mem_alphabet_of_digitValue? (digitValue?_digit h)

def faultAt (c : Char) (position : Nat) : InputFault :=
  if c.toNat < 128 then .base58Character c position else .base58NonAscii position

theorem digits_error {position : Nat} :
    digits position text = .error fault ↔
      ∃ before c after, text = before ++ c :: after ∧ (∀ d ∈ before, d ∈ alphabet) ∧
        c ∉ alphabet ∧ fault = faultAt c (position + before.length) := by
  induction text generalizing position with
  | nil => simp [digits]
  | cons c rest ih =>
    rw [digits]
    cases hc : digitValue? c with
    | none =>
      have hout : c ∉ alphabet := digitValue?_eq_none.mp hc
      constructor
      · intro h
        exact ⟨[], c, rest, rfl, fun d hd => absurd hd List.not_mem_nil, hout,
          (Except.error.inj h).symm⟩
      · rintro ⟨before, c', after, htext, hbefore, -, rfl⟩
        cases before with
        | nil =>
          cases htext
          rfl
        | cons d before =>
          cases htext
          exact absurd (hbefore c List.mem_cons_self) hout
    | some d =>
      have hin : c ∈ alphabet := mem_alphabet_of_digitValue? hc
      have hmap : (digits (position + 1) rest).map (d :: ·) = .error fault ↔
          digits (position + 1) rest = .error fault := by
        cases digits (position + 1) rest <;> simp [Except.map]
      dsimp only
      rw [hmap, ih]
      constructor
      · rintro ⟨before, c', after, rfl, hbefore, hout, rfl⟩
        refine ⟨c :: before, c', after, rfl, List.forall_mem_cons.mpr ⟨hin, hbefore⟩, hout, ?_⟩
        rw [List.length_cons, Nat.add_assoc, Nat.add_comm 1]
      · rintro ⟨before, c', after, htext, hbefore, hout, rfl⟩
        cases before with
        | nil =>
          cases htext
          exact absurd hin hout
        | cons d' before =>
          cases htext
          refine ⟨before, c', after, rfl, (List.forall_mem_cons.mp hbefore).2, hout, ?_⟩
          rw [List.length_cons, Nat.add_assoc, Nat.add_comm 1]

theorem decodeChars_error : decodeChars text = .error fault ↔ Refused text fault := by
  have hdigits : decodeChars text = .error fault ↔ digits 0 text = .error fault := by
    cases h : digits 0 text with
    | error e => simp [decodeChars, h, bind, Except.bind]
    | ok ds => simp [decodeChars_of_digits h]
  rw [hdigits, digits_error]
  constructor
  · rintro ⟨before, c, after, htext, hbefore, hout, rfl⟩
    rw [Nat.zero_add, faultAt]
    split
    · rename_i hascii
      exact .character htext hbefore hout hascii
    · rename_i hascii
      exact .nonAscii htext hbefore hout (Nat.not_lt.mp hascii)
  · rintro (⟨htext, hbefore, hout, hascii⟩ | ⟨htext, hbefore, hout, hascii⟩)
    · exact ⟨_, _, _, htext, hbefore, hout, by rw [Nat.zero_add, faultAt, if_pos hascii]⟩
    · exact ⟨_, _, _, htext, hbefore, hout,
        by rw [Nat.zero_add, faultAt, if_neg (Nat.not_lt.mpr hascii)]⟩

theorem decodeFixed_error {n : Nat} {text : String} :
    decodeFixed n text = .error fault ↔ Refused (Text.trim text.toList) fault ∨
      ∃ bytes, decodeChars (Text.trim text.toList) = .ok bytes ∧ bytes.length ≠ n ∧
        fault = .base58Length n bytes.length := by
  rw [decodeFixed, bind_error, ← decodeChars_error]
  refine or_congr_right (exists_congr fun bytes => and_congr_right fun _ => ?_)
  by_cases hlength : bytes.length = n
  · rw [show FixedBytes.ofBytes? bytes = some ⟨bytes, hlength⟩ from dif_pos hlength]
    simp [hlength, pure, Except.pure]
  · rw [show FixedBytes.ofBytes? bytes = (none : Option (FixedBytes n)) from dif_neg hlength]
    simp [hlength, throw, throwThe, MonadExceptOf.throw, eq_comm]

-- ---------------------------------------------------------------------------
-- Texts that are read
-- ---------------------------------------------------------------------------

theorem mem_alphabet_of_mem_encodeChars {bytes : Bytes} {c : Char} (h : c ∈ encodeChars bytes) :
    c ∈ alphabet := by
  rw [encodeChars_eq] at h
  obtain ⟨d, hd, rfl⟩ := List.mem_map.mp h
  exact digit_mem_alphabet (rebase_lt (by decide) hd)

theorem exists_decodeChars :
    (∃ bytes, decodeChars text = .ok bytes) ↔ ∀ c ∈ text, c ∈ alphabet := by
  constructor
  · rintro ⟨bytes, h⟩ c hc
    rw [decodeChars_ok.mp h] at hc
    exact mem_alphabet_of_mem_encodeChars hc
  · intro hall
    cases h : decodeChars text with
    | ok bytes => exact ⟨bytes, rfl⟩
    | error fault =>
      obtain ⟨htext, -, hout, -⟩ | ⟨htext, -, hout, -⟩ := decodeChars_error.mp h <;>
        exact absurd (hall _ (htext ▸ List.mem_append_right _ List.mem_cons_self)) hout

theorem decode_ok {text : String} {bytes : Bytes} :
    decode text = .ok bytes ↔ encode bytes = text := by
  rw [decode, decodeChars_ok, ← String.toList_inj, encode, String.toList_ofList, eq_comm]

theorem digit_eq_one {d : Nat} (h : d < 58) : (digit d == '1') = (d == 0) := by
  revert d
  decide

theorem length_takeWhile_encodeChars (bytes : Bytes) :
    ((encodeChars bytes).takeWhile (· == '1')).length = (bytes.takeWhile (· == 0)).length := by
  have hones : ∀ ds : List Nat, (∀ d ∈ ds, d < 58) →
      (ds.map digit).takeWhile (· == '1') = (ds.takeWhile (· == 0)).map digit := by
    intro ds hds
    induction ds with
    | nil => rfl
    | cons d ds ih =>
      obtain ⟨hd, hds⟩ := List.forall_mem_cons.mp hds
      rw [List.map_cons, List.takeWhile_cons, List.takeWhile_cons, digit_eq_one hd]
      cases d == 0 with
      | true => exact congrArg (digit d :: ·) (ih hds)
      | false => rfl
  rw [encodeChars_eq, hones _ fun d => rebase_lt (by decide), takeWhile_rebase,
    takeWhile_map_toNat, List.length_map, List.length_map]

/-- Writing and reading go both ways between the byte strings and the texts over the
alphabet, with as many zeros in front as ones. A fixed number of bytes is read exactly from
their written form, with or without blanks around it, so a key has one address. Whatever is
refused is invalid input, for a character or for the number of its bytes. -/
theorem encode_bijOn :
    Set.BijOn encode Set.univ {text | ∀ c ∈ text.toList, c ∈ alphabet} ∧
    (∀ bytes, decode (encode bytes) = .ok bytes) ∧
    (∀ text, (∃ bytes, decode text = .ok bytes) ↔ ∀ c ∈ text.toList, c ∈ alphabet) ∧
    (∀ text bytes, decode text = .ok bytes → encode bytes = text ∧
      (text.toList.takeWhile (· == '1')).length = (bytes.takeWhile (· == 0)).length) ∧
    (∀ bytes, ((encode bytes).toList.takeWhile (· == '1')).length =
      (bytes.takeWhile (· == 0)).length) ∧
    (∀ (n : Nat) (text : String) (a : FixedBytes n),
      decodeFixed n text = .ok a ↔ String.ofList (Text.trim text.toList) = encode a.bytes) ∧
    (∀ (n : Nat) (text text' : String) (a : FixedBytes n), decodeFixed n text = .ok a →
      decodeFixed n text' = .ok a → Text.trim text.toList = Text.trim text'.toList) ∧
    (∀ text e, (decode text).mapError WalletError.invalidInput = .error e ↔
      ∃ fault, Refused text.toList fault ∧ .invalidInput fault = e) ∧
    ∀ (n : Nat) text e, (decodeFixed n text).mapError WalletError.invalidInput = .error e ↔
      ∃ fault, (Refused (Text.trim text.toList) fault ∨
        ∃ bytes, decodeChars (Text.trim text.toList) = .ok bytes ∧ bytes.length ≠ n ∧
          fault = .base58Length n bytes.length) ∧ .invalidInput fault = e := by
  have hread : ∀ text : String,
      (∃ bytes, decode text = .ok bytes) ↔ ∀ c ∈ text.toList, c ∈ alphabet :=
    fun text => exists_decodeChars
  have hzeros : ∀ bytes, ((encode bytes).toList.takeWhile (· == '1')).length =
      (bytes.takeWhile (· == 0)).length := by
    intro bytes
    rw [encode, String.toList_ofList, length_takeWhile_encodeChars]
  refine ⟨⟨?_, ?_, ?_⟩, fun bytes => decode_ok.mpr rfl, hread, ?_, hzeros, ?_, ?_, ?_, ?_⟩
  · intro bytes _
    exact (hread _).mp ⟨bytes, decode_ok.mpr rfl⟩
  · intro bytes _ bytes' _ h
    exact encodeChars_inj (String.ofList_injective h)
  · intro text htext
    obtain ⟨bytes, h⟩ := (hread text).mpr htext
    exact ⟨bytes, Set.mem_univ bytes, decode_ok.mp h⟩
  · intro text bytes h
    obtain rfl := decode_ok.mp h
    exact ⟨rfl, hzeros bytes⟩
  · intro n text a
    rw [decodeFixed_ok, encode, String.ofList_inj]
  · intro n text text' a h h'
    rw [decodeFixed_ok.mp h, decodeFixed_ok.mp h']
  · intro text e
    rw [mapError_error]
    exact exists_congr fun fault => and_congr_left' decodeChars_error
  · intro n text e
    rw [mapError_error]
    exact exists_congr fun fault => and_congr_left' decodeFixed_error

end SlotWallet.Base58
