import Mathlib.Data.Nat.Digits.Lemmas
import Mathlib.Tactic.Ring
import SlotWallet.Proofs.Success
import SlotWallet.Transfer.CompactLength

/-!
# Compact lengths are read back

A compact form is any number of bytes with the high bit set and one without (`Form`). Reading
takes the form that a byte string begins with, whatever follows, if it has ten bytes at most and
its number fits 64 bits (`decode_ok`). `encode` writes the shortest form of a number, and no other
form of it is as short.
-/

namespace SlotWallet.CompactLength

theorem encode_of_lt {value : Nat} (h : value < 128) : encode value = [UInt8.ofNat value] := by
  rw [encode, if_pos h]

theorem encode_of_le {value : Nat} (h : 128 ≤ value) :
    encode value = UInt8.ofNat (value % 128 + 128) :: encode (value / 128) := by
  rw [encode, if_neg (Nat.not_lt.mpr h)]

/-- Some bytes are a way to write a number. -/
inductive Form : Bytes → Nat → Prop
  | last {byte : UInt8} : byte.toNat < 128 → Form [byte] byte.toNat
  | more {byte : UInt8} {rest : Bytes} {value : Nat} : 128 ≤ byte.toNat → Form rest value →
      Form (byte :: rest) (byte.toNat % 128 + 128 * value)

variable {form : Bytes} {value : Nat}

-- ---------------------------------------------------------------------------
-- Forms
-- ---------------------------------------------------------------------------

theorem form_encode (value : Nat) : Form (encode value) value := by
  induction value using Nat.strongRecOn with
  | ind value ih =>
    by_cases hv : value < 128
    · have hbyte : (UInt8.ofNat value).toNat = value := by
        rw [UInt8.toNat_ofNat']
        omega
      have hform : Form [UInt8.ofNat value] (UInt8.ofNat value).toNat := .last (by omega)
      rwa [hbyte, ← encode_of_lt hv] at hform
    · have hv : 128 ≤ value := Nat.not_lt.mp hv
      have hbyte : (UInt8.ofNat (value % 128 + 128)).toNat = value % 128 + 128 := by
        rw [UInt8.toNat_ofNat']
        omega
      have hhigh : 128 ≤ (UInt8.ofNat (value % 128 + 128)).toNat := by omega
      have hform := Form.more hhigh (ih (value / 128) (by omega))
      have hvalue : (value % 128 + 128) % 128 + 128 * (value / 128) = value := by omega
      rwa [hbyte, hvalue, ← encode_of_le hv] at hform

theorem length_encode_le {bound : Nat} (h : value < 128 ^ (bound + 1)) :
    (encode value).length ≤ bound + 1 := by
  induction bound generalizing value with
  | zero =>
    have hv : value < 128 := by simpa using h
    simp [encode_of_lt hv]
  | succ bound ih =>
    by_cases hv : value < 128
    · simp [encode_of_lt hv]
    · rw [encode_of_le (Nat.not_lt.mp hv), List.length_cons]
      have hrest : value / 128 < 128 ^ (bound + 1) :=
        Nat.div_lt_of_lt_mul (by rwa [Nat.mul_comm, ← Nat.pow_succ])
      have := ih hrest
      omega

theorem Form.length_pos (h : Form form value) : 0 < form.length := by
  cases h <;> simp

theorem Form.length_encode_le (h : Form form value) : (encode value).length ≤ form.length := by
  induction h with
  | last hb => simp [encode_of_lt hb]
  | @more byte rest value hb _ ih =>
    have hb := byte.toNat_lt
    by_cases hv : byte.toNat % 128 + 128 * value < 128
    · simp [encode_of_lt hv]
    · have hdiv : (byte.toNat % 128 + 128 * value) / 128 = value := by omega
      simpa [encode_of_le (Nat.not_lt.mp hv), hdiv] using ih

theorem Form.eq_encode (h : Form form value) (hlength : (encode value).length = form.length) :
    form = encode value := by
  induction h with
  | @last byte hb => simp [encode_of_lt hb]
  | @more byte rest value hb hrest ih =>
    have hbyte := byte.toNat_lt
    have hpos := hrest.length_pos
    by_cases hv : byte.toNat % 128 + 128 * value < 128
    · simp only [encode_of_lt hv, List.length_cons, List.length_nil] at hlength
      omega
    · have hdiv : (byte.toNat % 128 + 128 * value) / 128 = value := by omega
      have hmod : (byte.toNat % 128 + 128 * value) % 128 + 128 = byte.toNat := by omega
      rw [encode_of_le (Nat.not_lt.mp hv), hdiv, hmod] at hlength ⊢
      rw [UInt8.ofNat_toNat, ← ih (by simpa using hlength)]

theorem form_iff :
    Form form value ↔ ∃ front last, form = front ++ [last] ∧ (∀ byte ∈ front, 128 ≤ byte.toNat) ∧
      last.toNat < 128 ∧ value = Nat.ofDigits 128 (form.map fun byte => byte.toNat % 128) := by
  constructor
  · intro h
    induction h with
    | @last byte hb =>
      refine ⟨[], byte, rfl, by simp, hb, ?_⟩
      simp [Nat.ofDigits_singleton, Nat.mod_eq_of_lt hb]
    | @more byte rest value hb _ ih =>
      obtain ⟨front, last, rfl, hfront, hlast, hvalue⟩ := ih
      refine ⟨byte :: front, last, rfl, List.forall_mem_cons.mpr ⟨hb, hfront⟩, hlast, ?_⟩
      rw [List.map_cons, Nat.ofDigits_cons, ← hvalue]
  · rintro ⟨front, last, rfl, hfront, hlast, rfl⟩
    induction front with
    | nil =>
      have hform := Form.last hlast
      simpa [Nat.ofDigits_singleton, Nat.mod_eq_of_lt hlast] using hform
    | cons byte front ih =>
      obtain ⟨hb, hfront⟩ := List.forall_mem_cons.mp hfront
      rw [List.cons_append, List.map_cons, Nat.ofDigits_cons]
      exact .more hb (ih hfront)

-- ---------------------------------------------------------------------------
-- Reading
-- ---------------------------------------------------------------------------

theorem shift_digit (before digit value index : Nat) :
    before + digit * 2 ^ (7 * index) + value * 2 ^ (7 * (index + 1)) =
      before + (digit + 128 * value) * 2 ^ (7 * index) := by
  rw [Nat.mul_succ, Nat.pow_add]
  ring

theorem decodeFrom_form {index before : Nat} (rest : Bytes) (h : Form form value)
    (hindex : index + form.length ≤ 10) (hvalue : before + value * 2 ^ (7 * index) < UInt64.size) :
    decodeFrom index before (form ++ rest) =
      .ok (before + value * 2 ^ (7 * index), index + form.length) := by
  induction h generalizing index before with
  | @last byte hb =>
    have hi : index < 10 := Nat.lt_of_succ_le hindex
    simp [decodeFrom, Nat.mod_eq_of_lt hb, Nat.shiftLeft_eq, hi, hb, hvalue, pure, Except.pure]
  | @more byte form value hb _ ih =>
    rw [← shift_digit] at hvalue ⊢
    rw [List.length_cons] at hindex ⊢
    have hi : index < 10 := by omega
    have hnext : before + byte.toNat % 128 * 2 ^ (7 * index) < UInt64.size := by omega
    simp only [List.cons_append, decodeFrom, Nat.shiftLeft_eq, hi, hnext, and_self, if_true]
    rw [if_neg (Nat.not_lt.mpr hb), ih (by omega) hvalue]
    congr 2
    omega

/-- What is read is a form, and what is left of it follows the digits before. -/
theorem decodeFrom_ok {index before count : Nat} {bytes : Bytes} :
    decodeFrom index before bytes = .ok (value, count) ↔
      ∃ form rest n, bytes = form ++ rest ∧ Form form n ∧ value = before + n * 2 ^ (7 * index) ∧
        count = index + form.length ∧ count ≤ 10 ∧ value < UInt64.size := by
  constructor
  · intro h
    induction bytes generalizing index before with
    | nil => contradiction
    | cons byte bytes ih =>
      simp only [decodeFrom, Nat.shiftLeft_eq] at h
      split at h
      · rename_i hfits
        obtain ⟨hi, hnext⟩ := hfits
        split at h
        · rename_i hb
          cases h
          rw [Nat.mod_eq_of_lt hb] at hnext ⊢
          exact ⟨[byte], bytes, byte.toNat, rfl, .last hb, rfl, rfl, hi, hnext⟩
        · rename_i hb
          obtain ⟨form, rest, n, rfl, hform, hvalue, hcount, hten, hsize⟩ := ih h
          refine ⟨byte :: form, rest, _, rfl, .more (Nat.not_lt.mp hb) hform, ?_, ?_, hten, hsize⟩
          · rw [hvalue, shift_digit]
          · rw [hcount, List.length_cons]
            omega
      · contradiction
  · rintro ⟨form, rest, n, rfl, hform, rfl, rfl, hten, hsize⟩
    exact decodeFrom_form rest hform hten hsize

theorem decode_ok {count : Nat} {bytes : Bytes} :
    decode bytes = .ok (value, count) ↔
      ∃ form rest, bytes = form ++ rest ∧ Form form value ∧ count = form.length ∧ count ≤ 10 ∧
        value < UInt64.size := by
  rw [decode, decodeFrom_ok]
  simp only [Nat.mul_zero, Nat.pow_zero, Nat.mul_one, Nat.zero_add]
  constructor
  · rintro ⟨form, rest, n, hbytes, hform, rfl, hrest⟩
    exact ⟨form, rest, hbytes, hform, hrest⟩
  · rintro ⟨form, rest, hbytes, hform, hrest⟩
    exact ⟨form, rest, value, hbytes, hform, rfl, hrest⟩

theorem decode_encode_append (rest : Bytes) (h : value < UInt64.size) :
    decode (encode value ++ rest) = .ok (value, (encode value).length) := by
  have hten : (encode value).length ≤ 9 + 1 :=
    length_encode_le (Nat.lt_trans h (by decide))
  exact decode_ok.mpr ⟨encode value, rest, rfl, form_encode value, rfl, hten, h⟩

theorem decodeFrom_error {index before : Nat} {fault : InputFault} {bytes : Bytes}
    (h : decodeFrom index before bytes = .error fault) : fault = .compactLength := by
  induction bytes generalizing index before with
  | nil => exact (Except.error.inj h).symm
  | cons byte bytes ih =>
    simp only [decodeFrom] at h
    split at h
    · split at h
      · contradiction
      · exact ih h
    · exact (Except.error.inj h).symm

theorem decode_error {fault : InputFault} {bytes : Bytes} :
    decode bytes = .error fault ↔
      fault = .compactLength ∧ ∀ value count, decode bytes ≠ .ok (value, count) := by
  constructor
  · intro h
    exact ⟨decodeFrom_error h, fun value count hok => by simp [h] at hok⟩
  · rintro ⟨rfl, hnone⟩
    cases h : decode bytes with
    | error fault => rw [decodeFrom_error h]
    | ok read => exact absurd h (hnone read.1 read.2)

-- ---------------------------------------------------------------------------
-- Byte strings
-- ---------------------------------------------------------------------------

theorem ofDigits_eq_sum (bytes : Bytes) :
    Nat.ofDigits 128 (bytes.map fun byte => byte.toNat % 128) =
      (bytes.mapIdx fun i byte => byte.toNat % 128 * 128 ^ i).sum := by
  rw [Nat.ofDigits_eq_sum_mapIdx]
  congr 1
  exact List.ext_getElem (by simp) (by simp)

theorem begins_iff {bytes : Bytes} {count : Nat} :
    (∃ form rest, bytes = form ++ rest ∧ Form form value ∧ count = form.length) ↔
      1 ≤ count ∧ (∀ byte ∈ bytes.take (count - 1), 128 ≤ byte.toNat) ∧
      (∃ last, bytes[count - 1]? = some last ∧ last.toNat < 128) ∧
      value = ((bytes.take count).mapIdx fun i byte => byte.toNat % 128 * 128 ^ i).sum := by
  simp only [form_iff, ← ofDigits_eq_sum]
  constructor
  · rintro ⟨_, rest, rfl, ⟨front, last, rfl, hfront, hlast, rfl⟩, rfl⟩
    refine ⟨by simp, ?_, ⟨last, by simp, hlast⟩, by rw [List.take_left]⟩
    simpa using hfront
  · rintro ⟨hcount, hfront, ⟨last, hat, hlast⟩, rfl⟩
    obtain ⟨place, rfl⟩ : ∃ place, count = place + 1 := ⟨count - 1, by omega⟩
    rw [Nat.add_sub_cancel] at hfront hat
    have htake : bytes.take (place + 1) = bytes.take place ++ [last] := by
      rw [List.take_add_one, hat, Option.toList_some]
    have hplace : place < bytes.length := (List.getElem?_eq_some_iff.mp hat).1
    refine ⟨bytes.take (place + 1), bytes.drop (place + 1), (List.take_append_drop _ _).symm,
      ⟨bytes.take place, last, htake, hfront, hlast, rfl⟩, ?_⟩
    rw [List.length_take, Nat.min_eq_left hplace]

/-- Which byte strings begin with a compact length, and how long it is. Other bytes are refused
as invalid input, and bytes behind the length do not matter. Every number of 64 bits is read
back from its written form, which is shorter than all others. -/
theorem decode_base128 (bytes : Bytes) :
    (∀ value count, decode bytes = .ok (value, count) ↔
      1 ≤ count ∧ count ≤ 10 ∧ (∀ byte ∈ bytes.take (count - 1), 128 ≤ byte.toNat) ∧
      (∃ last, bytes[count - 1]? = some last ∧ last.toNat < 128) ∧
      value = ((bytes.take count).mapIdx fun i byte => byte.toNat % 128 * 128 ^ i).sum ∧
      value < 2 ^ 64) ∧
    (∀ e, (decode bytes).mapError WalletError.invalidInput = .error e ↔
      e = .invalidInput .compactLength ∧ ∀ value count, decode bytes ≠ .ok (value, count)) ∧
    (∀ value count, decode bytes = .ok (value, count) →
      (∀ suffix, decode (bytes.take count ++ suffix) = .ok (value, count)) ∧
      (encode value).length ≤ count ∧
      ((encode value).length = count ↔ bytes.take count = encode value)) ∧
    ∀ (value : UInt64) (suffix : Bytes),
      decode (encode value.toNat ++ suffix) = .ok (value.toNat, (encode value.toNat).length) := by
  refine ⟨fun value count => ?_, fun e => ?_, fun value count h => ?_, fun value suffix => ?_⟩
  · rw [decode_ok]
    constructor
    · rintro ⟨form, rest, hbytes, hform, hcount, hten, hsize⟩
      obtain ⟨hone, hfront, hlast, hvalue⟩ :=
        begins_iff.mp ⟨form, rest, hbytes, hform, hcount⟩
      exact ⟨hone, hten, hfront, hlast, hvalue, hsize⟩
    · rintro ⟨hone, hten, hfront, hlast, hvalue, hsize⟩
      obtain ⟨form, rest, hbytes, hform, hcount⟩ :=
        begins_iff.mpr ⟨hone, hfront, hlast, hvalue⟩
      exact ⟨form, rest, hbytes, hform, hcount, hten, hsize⟩
  · simp only [mapError_error, decode_error]
    constructor
    · rintro ⟨fault, ⟨rfl, hnone⟩, rfl⟩
      exact ⟨rfl, hnone⟩
    · rintro ⟨rfl, hnone⟩
      exact ⟨_, ⟨rfl, hnone⟩, rfl⟩
  · obtain ⟨form, rest, rfl, hform, rfl, hten, hsize⟩ := decode_ok.mp h
    rw [List.take_left]
    refine ⟨fun suffix => ?_, hform.length_encode_le, hform.eq_encode, ?_⟩
    · exact decode_ok.mpr ⟨form, suffix, rfl, hform, rfl, hten, hsize⟩
    · rintro rfl
      rfl
  · exact decode_encode_append suffix value.toNat_lt

end SlotWallet.CompactLength
