import SlotWallet.Proofs.Success
import SlotWallet.SealedSeed

/-!
# Sealed seeds open again

What a successful sealing drew and gave is told exactly (`ofSeed_ok`), and
so is what opening does with it: the seed comes back under the same password and
iteration count, also from the byte form, and so do all 64 bytes of any plaintext.
-/

namespace SlotWallet.SealedSeed

variable {password : Bytes} {iterations : UInt32}

theorem ofSeed_ok {seed : Seed} {source rest : Bytes} {s : SealedSeed} :
    ofSeed password seed iterations source = .ok (s, rest) ↔
      password ≠ [] ∧ iterations ≠ 0 ∧ ∃ (salt : FixedBytes 16) (nonce : FixedBytes 12),
        source = salt.bytes ++ (nonce.bytes ++ rest) ∧
          s = sealBytes password (seed.append (Ed25519.publicKey seed)) salt nonce iterations := by
  by_cases hp : password = []
  · simp [ofSeed, hp, bind, StateT.bind, Except.bind, throw, throwThe, MonadExceptOf.throw,
      StateT.lift]
  by_cases hi : iterations = 0
  · simp [ofSeed, hp, hi, bind, StateT.bind, Except.bind, throw, throwThe, MonadExceptOf.throw,
      StateT.lift]
  simp only [ofSeed, hp, hi, if_false, Drawing.bind_ok, Drawing.pure_ok, draw_ok]
  constructor
  · rintro ⟨salt, _, rfl, nonce, _, rfl, rfl, rfl⟩
    exact ⟨hp, hi, salt, nonce, rfl, rfl⟩
  · rintro ⟨-, -, salt, nonce, rfl, rfl⟩
    exact ⟨salt, _, rfl, nonce, _, rfl, rfl, rfl⟩

theorem openSeed_sealBytes (plaintext : FixedBytes 64) (salt : FixedBytes 16)
    (nonce : FixedBytes 12) (hp : password ≠ []) (hi : iterations ≠ 0) :
    (sealBytes password plaintext salt nonce iterations).openSeed password iterations =
      .ok plaintext.firstHalf := by
  rw [openSeed, openBytes_sealBytes plaintext salt nonce hp hi]
  rfl

theorem ofBytes_toBytes (s : SealedSeed) : ofBytes s.toBytes = .ok s := by
  rw [ofBytes, ofBytes?_toBytes]
  rfl

theorem openSeed_ofSeed {seed : Seed} {source rest : Bytes} {s : SealedSeed}
    (h : ofSeed password seed iterations source = .ok (s, rest)) :
    s.openSeed password iterations = .ok seed := by
  obtain ⟨hp, hi, salt, nonce, -, rfl⟩ := ofSeed_ok.mp h
  rw [openSeed_sealBytes _ salt nonce hp hi]
  exact congrArg Except.ok (FixedBytes.firstHalf_append seed (Ed25519.publicKey seed))

/-- With a password and iterations a seed is sealed under whatever salt and nonce
are drawn, and the blob survives its byte form and opens to the seed. So do sealed
bytes of any kind, all 64 of them, and the seed read from them is their first half. -/
theorem sealed_opens (hp : password ≠ []) (hi : iterations ≠ 0) (salt : FixedBytes 16)
    (nonce : FixedBytes 12) :
    (∀ (seed : Seed) (rest : Bytes), ∃ s,
      ofSeed password seed iterations (salt.bytes ++ (nonce.bytes ++ rest)) = .ok (s, rest) ∧
        s.salt = salt ∧ s.nonce = nonce ∧ ofBytes s.toBytes = .ok s ∧
        s.openSeed password iterations = .ok seed) ∧
    ∀ plaintext : FixedBytes 64,
      let s := sealBytes password plaintext salt nonce iterations
      ofBytes s.toBytes = .ok s ∧ s.openBytes password iterations = .ok plaintext ∧
        s.openSeed password iterations = .ok plaintext.firstHalf := by
  constructor
  · intro seed rest
    let s := sealBytes password (seed.append (Ed25519.publicKey seed)) salt nonce iterations
    have hsealed : ofSeed password seed iterations (salt.bytes ++ (nonce.bytes ++ rest)) =
        .ok (s, rest) := ofSeed_ok.mpr ⟨hp, hi, salt, nonce, rfl, rfl⟩
    exact ⟨s, hsealed, rfl, rfl, ofBytes_toBytes s, openSeed_ofSeed hsealed⟩
  · intro plaintext s
    exact ⟨ofBytes_toBytes s, openBytes_sealBytes plaintext salt nonce hp hi,
      openSeed_sealBytes plaintext salt nonce hp hi⟩

/-- One byte is password enough, and one iteration. -/
theorem sealed_opens_one_byte :
    ([0x70] : Bytes) ≠ [] ∧ (1 : UInt32) ≠ 0 ∧ ∃ s,
      ofSeed [0x70] (.zero 32) 1 (List.replicate 16 1 ++ (List.replicate 12 2 ++ [])) =
          .ok (s, []) ∧
        ofBytes s.toBytes = .ok s ∧ s.openSeed [0x70] 1 = .ok (.zero 32) := by
  obtain ⟨s, hs, -, -, hb, ho⟩ := (sealed_opens (show ([0x70] : Bytes) ≠ [] by decide)
    (show (1 : UInt32) ≠ 0 by decide) ⟨List.replicate 16 1, rfl⟩ ⟨List.replicate 12 2, rfl⟩).1
      (.zero 32) []
  exact ⟨by decide, by decide, s, hs, hb, ho⟩

end SlotWallet.SealedSeed
