import Mathlib.Tactic.NormNum
import SlotWallet.Proofs.Base58
import SlotWallet.Transfer.Signed

/-!
# Lengths of base58 texts

A change to a smaller base keeps the zeros in front and never takes fewer digits for the
rest, nor more than the number has room for (`length_rebase`). So the length of a text is
known from the number of bytes up to a few characters, whatever the bytes are.
-/

namespace SlotWallet.Base58

section Rebase

variable {base base' : Nat} {ds : List Nat}

theorem length_rebase (base' : Nat) (hbase : 1 < base) (h : ∀ d ∈ ds, d < base) :
    ∃ zeros, ds.length = zeros + (Nat.digits base (horner base ds)).length ∧
      (rebase base base' ds).length = zeros + (Nat.digits base' (horner base ds)).length := by
  refine ⟨(ds.takeWhile (· == 0)).length, ?_, by simp [rebase]⟩
  rw [digits_horner hbase h, List.length_reverse, ← List.length_append,
    List.takeWhile_append_dropWhile]

theorem length_digits_anti (hbase' : 1 < base') (hle : base' ≤ base) (n : Nat) :
    (Nat.digits base n).length ≤ (Nat.digits base' n).length := by
  rw [Nat.digits_length_le_iff (hbase'.trans_le hle)]
  calc n < base' ^ (Nat.digits base' n).length := Nat.lt_base_pow_length_digits hbase'
    _ ≤ base ^ (Nat.digits base' n).length := Nat.pow_le_pow_left hle _

theorem length_le_length_rebase (hbase' : 1 < base') (hle : base' ≤ base)
    (h : ∀ d ∈ ds, d < base) : ds.length ≤ (rebase base base' ds).length := by
  obtain ⟨zeros, hds, hrebase⟩ := length_rebase base' (hbase'.trans_le hle) h
  have := length_digits_anti hbase' hle (horner base ds)
  omega

/-- One digit less leaves no room for as many digits of the larger base. -/
theorem pow_length_rebase_lt (hbase' : 1 < base') (hle : base' ≤ base)
    (h : ∀ d ∈ ds, d < base) (hne : ds ≠ []) :
    base' ^ ((rebase base base' ds).length - 1) < base ^ ds.length := by
  have hbase : 1 < base := hbase'.trans_le hle
  obtain ⟨zeros, hds, hrebase⟩ := length_rebase base' hbase h
  generalize horner base ds = n at hds hrebase
  rw [hds, hrebase]
  rcases Nat.eq_zero_or_pos n with rfl | hn
  · -- all digits are zeros
    have hpos : 0 < ds.length := List.length_pos_iff.mpr hne
    simp only [Nat.digits_zero, List.length_nil, Nat.add_zero] at hds ⊢
    calc base' ^ (zeros - 1) ≤ base ^ (zeros - 1) := Nat.pow_le_pow_left hle _
      _ < base ^ zeros := Nat.pow_lt_pow_right hbase (by omega)
  · have hdigits : 0 < (Nat.digits base' n).length :=
      List.length_pos_iff.mpr (Nat.digits_ne_nil_iff_ne_zero.mpr hn.ne')
    have hlow : base' ^ ((Nat.digits base' n).length - 1) ≤ n :=
      (Nat.lt_digits_length_iff hbase' n).mp (by omega)
    rw [Nat.add_sub_assoc hdigits, Nat.pow_add, Nat.pow_add]
    calc base' ^ zeros * base' ^ ((Nat.digits base' n).length - 1)
        ≤ base ^ zeros * n := Nat.mul_le_mul (Nat.pow_le_pow_left hle _) hlow
      _ < base ^ zeros * base ^ (Nat.digits base n).length :=
        Nat.mul_lt_mul_of_pos_left (Nat.lt_base_pow_length_digits hbase)
          (Nat.pow_pos (Nat.zero_lt_of_lt hbase))

end Rebase

-- ---------------------------------------------------------------------------
-- Texts
-- ---------------------------------------------------------------------------

variable {bytes : Bytes}

theorem length_encode (bytes : Bytes) :
    (encode bytes).length = (rebase 256 58 (bytes.map UInt8.toNat)).length := by
  rw [encode, String.length_ofList, encodeChars_eq, List.length_map]

theorem length_le_length_encode (bytes : Bytes) : bytes.length ≤ (encode bytes).length := by
  have h : (bytes.map UInt8.toNat).length ≤ (rebase 256 58 (bytes.map UInt8.toNat)).length :=
    length_le_length_rebase (by decide) (by decide) (toNat_lt bytes)
  rwa [List.length_map, ← length_encode] at h

theorem pow_length_encode_lt (hne : bytes ≠ []) :
    58 ^ ((encode bytes).length - 1) < 256 ^ bytes.length := by
  rw [length_encode, ← List.length_map (f := UInt8.toNat)]
  exact pow_length_rebase_lt (by decide) (by decide) (toNat_lt bytes)
    (List.map_eq_nil_iff.not.mpr hne)

theorem length_encode_le {limit : Nat} (hne : bytes ≠ []) (h : 256 ^ bytes.length ≤ 58 ^ limit) :
    (encode bytes).length ≤ limit := by
  have hlt : 58 ^ ((encode bytes).length - 1) < 58 ^ limit := (pow_length_encode_lt hne).trans_le h
  have := (Nat.pow_lt_pow_iff_right (by decide)).mp hlt
  omega

theorem length_encode_fixed {n : Nat} (limit : Nat) (a : FixedBytes n) (hpos : 0 < n)
    (h : 256 ^ n ≤ 58 ^ limit) : n ≤ (encode a.bytes).length ∧ (encode a.bytes).length ≤ limit := by
  have hne : a.bytes ≠ [] := by
    rw [← List.length_pos_iff, a.length_eq]
    exact hpos
  refine ⟨?_, length_encode_le hne (by rwa [a.length_eq])⟩
  have hlow := length_le_length_encode a.bytes
  rwa [a.length_eq] at hlow

/-- A text has as many characters as there are bytes or more, and with one character less it
would have room for fewer byte strings of that length than there are. Keys are shown in 32 to 44
characters, and the ids of transfers in 64 to 88. -/
theorem length_encode_bounds :
    (∀ bytes : Bytes, bytes ≠ [] → bytes.length ≤ (encode bytes).length ∧
      58 ^ ((encode bytes).length - 1) < 256 ^ bytes.length) ∧
    (∀ key : PublicKey,
      32 ≤ (PublicKey.address key).length ∧ (PublicKey.address key).length ≤ 44) ∧
    (∀ keys : KeyPair, 32 ≤ keys.address.length ∧ keys.address.length ≤ 44) ∧
    ∀ t : SignedTransfer, 64 ≤ t.id.length ∧ t.id.length ≤ 88 := by
  have haddress (key : PublicKey) := length_encode_fixed 44 key (by decide) (by norm_num)
  refine ⟨fun bytes hne => ⟨length_le_length_encode bytes, pow_length_encode_lt hne⟩, haddress,
    fun keys => haddress keys.publicKey, fun t => ?_⟩
  exact length_encode_fixed 88 t.signature (by decide) (by norm_num)

/-- The longest and the shortest address: 32 bytes of the highest value, and 32 zeros. -/
theorem length_encode_extremes :
    List.replicate 32 (255 : UInt8) ≠ [] ∧
      58 ^ ((encode (List.replicate 32 255)).length - 1) < 256 ^ 32 ∧
      (encode (List.replicate 32 255)).length = 44 ∧
      (encode (List.replicate 32 0)).length = 32 := by
  have hne : List.replicate 32 (255 : UInt8) ≠ [] := List.cons_ne_nil _ _
  have hlong : (encodeChars (List.replicate 32 255)).length = 44 := by cbv
  have hshort : (encodeChars (List.replicate 32 0)).length = 32 := by cbv
  rw [encode, encode, String.length_ofList, String.length_ofList]
  refine ⟨hne, ?_, hlong, hshort⟩
  have hlast := (length_encode_bounds.1 (List.replicate 32 255) hne).2
  rwa [encode, String.length_ofList, List.length_replicate] at hlast

end SlotWallet.Base58
