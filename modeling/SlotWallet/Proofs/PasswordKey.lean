import Mathlib.Data.Fintype.Pigeonhole
import SlotWallet.Proofs.SealedForm

/-!
# Which passwords open a sealed seed

A password is the key of an HMAC, which takes keys that differ in zeros at the end for
one key (`Hmac.SameKey`). All passwords of one key open what was sealed under any of
them. Another password opens it only where the hash collides, and since there are more
keys than master keys some pairs of passwords do collide.
-/

namespace SlotWallet

-- ---------------------------------------------------------------------------
-- Keys
-- ---------------------------------------------------------------------------

namespace Hmac

open Sha512

def shortKey (key : Bytes) : Bytes :=
  if key.length ≤ blockLength then key else (digest key).toBytes

/-- Keys that differ, once they are short, in zeros at the end only. -/
def SameKey (a b : Bytes) : Prop :=
  ∃ m n, shortKey a ++ List.replicate m 0 = shortKey b ++ List.replicate n 0

theorem length_shortKey_le (key : Bytes) : (shortKey key).length ≤ blockLength := by
  unfold shortKey
  split
  · assumption
  · rw [State.length_toBytes]
    decide

theorem shortKey_of_lt_length {key : Bytes} (h : blockLength < key.length) :
    shortKey key = (digest key).toBytes :=
  if_neg (Nat.not_le.mpr h)

theorem shortKey_of_length_le {key : Bytes} (h : key.length ≤ blockLength) : shortKey key = key :=
  if_pos h

theorem keyBlock_eq_take (key : Bytes) (m : Nat) :
    keyBlock key = (shortKey key ++ List.replicate m 0 ++ List.replicate blockLength 0).take
      blockLength := by
  have hle := length_shortKey_le key
  rw [List.append_assoc, List.replicate_append_replicate, List.take_append,
    List.take_of_length_le hle, List.take_replicate, Nat.min_eq_left (by omega)]
  rfl

theorem keyBlock_eq_iff {a b : Bytes} : keyBlock a = keyBlock b ↔ SameKey a b := by
  constructor
  · intro h
    exact ⟨_, _, h⟩
  · rintro ⟨m, n, h⟩
    rw [keyBlock_eq_take a m, keyBlock_eq_take b n, h]

theorem SameKey.eq {a b : Bytes} (h : SameKey a b) (hlength : a.length = b.length)
    (hle : b.length ≤ blockLength) : a = b := by
  obtain ⟨m, n, happend⟩ := h
  rw [shortKey_of_length_le (hlength ▸ hle), shortKey_of_length_le hle] at happend
  exact List.append_inj_left happend hlength

end Hmac

namespace Bytes

theorem ofLittleEndian_littleEndian (bytes : Bytes) :
    ofLittleEndian bytes.length (littleEndian bytes) = bytes := by
  induction bytes with
  | nil => rfl
  | cons b rest ih =>
    have hb : b.toNat < 256 := b.toNat_lt
    have hdigit : UInt8.ofNat (b.toNat + 256 * littleEndian rest) = b := by
      rw [← UInt8.toNat_inj, UInt8.toNat_ofNat']
      omega
    have hrest : (b.toNat + 256 * littleEndian rest) / 256 = littleEndian rest := by omega
    rw [littleEndian, List.length_cons, ofLittleEndian, hdigit, hrest, ih]

theorem littleEndian_inj {n : Nat} {a b : FixedBytes n}
    (h : littleEndian a.bytes = littleEndian b.bytes) : a = b := by
  have hlength : a.bytes.length = b.bytes.length := a.length_eq.trans b.length_eq.symm
  apply FixedBytes.ext_bytes
  rw [← ofLittleEndian_littleEndian a.bytes, h, hlength, ofLittleEndian_littleEndian]

/-- There are more strings of 65 bytes than of 64. -/
theorem exists_collision (f : Bytes → FixedBytes 64) :
    ∃ a b : Bytes, a.length = 65 ∧ b.length = 65 ∧ a ≠ b ∧ f a = f b := by
  have hlt : ∀ a : FixedBytes 64, littleEndian a.bytes < 1 <<< (8 * 64) := fun a => by
    have h := littleEndian_lt a.bytes
    rwa [a.length_eq] at h
  let image (i : Fin (1 <<< (8 * 65))) : Fin (1 <<< (8 * 64)) :=
    ⟨littleEndian (f (ofLittleEndian 65 i)).bytes, hlt _⟩
  have hcard : Fintype.card (Fin (1 <<< (8 * 64))) < Fintype.card (Fin (1 <<< (8 * 65))) := by
    rw [Fintype.card_fin, Fintype.card_fin]
    decide
  obtain ⟨i, j, hne, himage⟩ := Fintype.exists_ne_map_eq_of_card_lt image hcard
  refine ⟨ofLittleEndian 65 i, ofLittleEndian 65 j, length_ofLittleEndian _ _,
    length_ofLittleEndian _ _, fun heq => hne (Fin.ext ?_), ?_⟩
  · rw [← littleEndian_ofLittleEndian i.isLt, heq, littleEndian_ofLittleEndian j.isLt]
  · exact littleEndian_inj (congrArg Fin.val himage)

end Bytes

-- ---------------------------------------------------------------------------
-- Passwords
-- ---------------------------------------------------------------------------

namespace SealedSeed

variable {p q : Bytes} {iterations : UInt32} {s : SealedSeed}

/-- Where the hash does not tell two passwords apart: at the master key, at the key
for tags, or at the tag. -/
inductive Collides (s : SealedSeed) (p q : Bytes) (iterations : UInt32) : Prop
  | master : ¬Hmac.SameKey p q →
      masterKey p s.salt iterations = masterKey q s.salt iterations → Collides s p q iterations
  | tagKey : masterKey p s.salt iterations ≠ masterKey q s.salt iterations →
      subkey (masterKey p s.salt iterations) tagLabel s.nonce =
        subkey (masterKey q s.salt iterations) tagLabel s.nonce → Collides s p q iterations
  | tag : subkey (masterKey p s.salt iterations) tagLabel s.nonce ≠
        subkey (masterKey q s.salt iterations) tagLabel s.nonce →
      s.expectedTag p iterations = s.expectedTag q iterations → Collides s p q iterations

theorem masterKey_congr (h : Hmac.SameKey p q) (salt : FixedBytes 16) (iterations : UInt32) :
    masterKey p salt iterations = masterKey q salt iterations := by
  rw [masterKey, masterKey, Hmac.pbkdf2_congr (Hmac.keyBlock_eq_iff.mpr h)]

theorem expectedTag_eq_iff :
    s.expectedTag p iterations = s.expectedTag q iterations ↔
      Hmac.SameKey p q ∨ Collides s p q iterations := by
  constructor
  · intro htag
    by_cases hkey : Hmac.SameKey p q
    · exact .inl hkey
    refine .inr ?_
    by_cases hmaster : masterKey p s.salt iterations = masterKey q s.salt iterations
    · exact .master hkey hmaster
    by_cases hsub : subkey (masterKey p s.salt iterations) tagLabel s.nonce =
        subkey (masterKey q s.salt iterations) tagLabel s.nonce
    · exact .tagKey hmaster hsub
    · exact .tag hsub htag
  · rintro (hkey | hcollides)
    · rw [expectedTag, expectedTag, masterKey_congr hkey]
    · cases hcollides with
      | master _ hmaster => rw [expectedTag, expectedTag, hmaster]
      | tagKey _ hsub => rw [expectedTag, expectedTag, computeTag, computeTag, hsub]
      | tag _ htag => exact htag

/-- A password opens what was sealed under another one exactly if the two are one key
or collide. -/
theorem openSeed_other (plaintext : FixedBytes 64) (salt : FixedBytes 16) (nonce : FixedBytes 12)
    (hq : q ≠ []) (hi : iterations ≠ 0) :
    (sealBytes p plaintext salt nonce iterations).openSeed q iterations = .error .crypto ↔
      ¬Hmac.SameKey p q ∧ ¬Collides (sealBytes p plaintext salt nonce iterations) p q
        iterations := by
  -- what was sealed carries the tag that goes with its own password
  have hsealed : (sealBytes p plaintext salt nonce iterations).expectedTag p iterations =
      (sealBytes p plaintext salt nonce iterations).tag := rfl
  rw [← not_or, ← expectedTag_eq_iff, hsealed, openSeed_eq]
  constructor
  · intro h htag
    rw [if_pos ⟨hq, hi, htag.symm⟩] at h
    contradiction
  · intro htag
    exact if_neg fun h => htag h.2.2.symm

theorem openSeed_of_masterKey {plaintext : FixedBytes 64} {salt : FixedBytes 16}
    {nonce : FixedBytes 12} (hp : p ≠ []) (hq : q ≠ [])
    (h : masterKey p salt iterations = masterKey q salt iterations) :
    (sealBytes p plaintext salt nonce iterations).openSeed q iterations =
      (sealBytes p plaintext salt nonce iterations).openSeed p iterations := by
  have hsalt : (sealBytes p plaintext salt nonce iterations).salt = salt := rfl
  simp only [openSeed_eq, expectedTag, heldSeed, hsalt, h, ne_eq, hp, hq, not_false_eq_true]

/-- What a password sealed opens again under every password that is the same key, and
under no other that does not collide with it. There are always others that do: they
have the same master key and open the seed as well. -/
theorem opens_under_one_key (hi : iterations ≠ 0) (seed : Seed) (salt : FixedBytes 16)
    (nonce : FixedBytes 12) (rest : Bytes) :
    (∀ p q : Bytes, p ≠ [] → q ≠ [] → ∃ s,
      ofSeed p seed iterations (salt.bytes ++ (nonce.bytes ++ rest)) = .ok (s, rest) ∧
        (s.openSeed q iterations = .error .crypto ↔
          ¬Hmac.SameKey p q ∧ ¬Collides s p q iterations) ∧
        (Hmac.SameKey p q → s.openSeed q iterations = .ok seed)) ∧
    ∃ p q : Bytes, p ≠ [] ∧ q ≠ [] ∧ ¬Hmac.SameKey p q ∧ ∃ s,
      ofSeed p seed iterations (salt.bytes ++ (nonce.bytes ++ rest)) = .ok (s, rest) ∧
        s.openSeed q iterations = .ok seed := by
  have hsealed : ∀ p : Bytes, p ≠ [] →
      ofSeed p seed iterations (salt.bytes ++ (nonce.bytes ++ rest)) =
        .ok (sealBytes p (seed.append (Ed25519.publicKey seed)) salt nonce iterations, rest) :=
    fun p hp => ofSeed_ok.mpr ⟨hp, hi, salt, nonce, rfl, rfl⟩
  constructor
  · intro p q hp hq
    refine ⟨_, hsealed p hp, openSeed_other _ salt nonce hq hi, fun hkey => ?_⟩
    rw [openSeed_of_masterKey hp hq (masterKey_congr hkey _ _)]
    exact openSeed_ofSeed (hsealed p hp)
  · obtain ⟨p, q, hlp, hlq, hne, hmaster⟩ :=
      Bytes.exists_collision fun password => masterKey password salt iterations
    have hp : p ≠ [] := List.ne_nil_of_length_pos (by omega)
    have hq : q ≠ [] := List.ne_nil_of_length_pos (by omega)
    have hlength : p.length = q.length := hlp.trans hlq.symm
    have hle : q.length ≤ Hmac.blockLength := by
      rw [hlq]
      decide
    refine ⟨p, q, hp, hq, fun hkey => hne (hkey.eq hlength hle), _, hsealed p hp, ?_⟩
    rw [openSeed_of_masterKey hp hq hmaster]
    exact openSeed_ofSeed (hsealed p hp)

/-- A password of 129 bytes and its digest are one key. -/
theorem opens_under_digest :
    let p : Bytes := List.replicate 129 0x61
    let q := (Sha512.digest p).toBytes
    (1 : UInt32) ≠ 0 ∧ p ≠ [] ∧ q ≠ [] ∧ Hmac.SameKey p q ∧ ∃ s,
      ofSeed p (.zero 32) 1 (List.replicate 16 1 ++ (List.replicate 12 2 ++ [])) = .ok (s, []) ∧
        s.openSeed q 1 = .ok (.zero 32) := by
  intro p q
  have hp : p ≠ [] := by decide
  have hq : q ≠ [] := List.ne_nil_of_length_pos (Nat.succ_pos 63)
  have hkey : Hmac.SameKey p q := by
    have hlong : Hmac.blockLength < p.length := by
      rw [show p.length = 129 from List.length_replicate]
      decide
    have hshort : q.length ≤ Hmac.blockLength := by
      rw [Sha512.State.length_toBytes]
      decide
    refine ⟨0, 0, ?_⟩
    rw [Hmac.shortKey_of_lt_length hlong, Hmac.shortKey_of_length_le hshort]
  obtain ⟨s, hsealed, -, hopen⟩ := (opens_under_one_key (show (1 : UInt32) ≠ 0 by decide) (.zero 32)
    ⟨List.replicate 16 1, rfl⟩ ⟨List.replicate 12 2, rfl⟩ []).1 p q hp hq
  exact ⟨by decide, hp, hq, hkey, s, hsealed, hopen hkey⟩

/-- Two different passwords, one of which opens what the other sealed. -/
theorem other_password_opens :
    ([0x61] : Bytes) ≠ [] ∧ ([0x61, 0x00] : Bytes) ≠ [] ∧ ([0x61] : Bytes) ≠ [0x61, 0x00] ∧ ∃ s,
      ofSeed [0x61] (.zero 32) 1 (List.replicate 16 1 ++ List.replicate 12 2) = .ok (s, []) ∧
        s.openSeed [0x61, 0x00] 1 = .ok (.zero 32) := by
  have hsealed : ofSeed [0x61] (.zero 32) 1 (List.replicate 16 1 ++ List.replicate 12 2) = .ok
      (sealBytes [0x61] ((FixedBytes.zero 32).append (Ed25519.publicKey (.zero 32)))
        ⟨List.replicate 16 1, rfl⟩ ⟨List.replicate 12 2, rfl⟩ 1, []) :=
    ofSeed_ok.mpr ⟨by decide, by decide, ⟨List.replicate 16 1, rfl⟩, ⟨List.replicate 12 2, rfl⟩,
      rfl, rfl⟩
  have hkey : Hmac.SameKey [0x61] [0x61, 0x00] := ⟨1, 0, rfl⟩
  refine ⟨by decide, by decide, by decide, _, hsealed, ?_⟩
  rw [openSeed_of_masterKey (by decide) (by decide) (masterKey_congr hkey _ _)]
  exact openSeed_ofSeed hsealed

end SealedSeed

end SlotWallet
