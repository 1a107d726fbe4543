import SlotWallet.Proofs.Base64
import SlotWallet.Proofs.Success
import SlotWallet.Proofs.Transfer

/-!
# What is signed is what is submitted

A signed transfer is framed in a buffer of its own and written in base64. A compiled
message always fits there (`base64_of_ofRequest`), and the text holds the signature and the
message it was made for at fixed places, with the key of the signer in the message
(`verifies_as_submitted`).
-/

namespace SlotWallet.SignedTransfer

variable {keys : KeyPair} {request : TransferRequest} {t : SignedTransfer}

/-- What is submitted: one signature and the message that it signs. -/
def framed (t : SignedTransfer) : Bytes :=
  CompactLength.encode 1 ++ t.signature.bytes ++ t.message.bytes

theorem framed_eq (t : SignedTransfer) :
    t.framed = 1 :: (t.signature.bytes ++ t.message.bytes) := by
  rw [framed, CompactLength.encode_of_lt (by decide)]
  rfl

theorem decode_framed (t : SignedTransfer) : CompactLength.decode t.framed = .ok (1, 1) := by
  rw [framed, List.append_assoc, CompactLength.decode_encode_append _ (by decide),
    CompactLength.encode_of_lt (by decide)]
  rfl

theorem take_framed (t : SignedTransfer) : (t.framed.drop 1).take 64 = t.signature.bytes := by
  rw [framed_eq]
  exact List.take_left' t.signature.length_eq

theorem drop_framed (t : SignedTransfer) : t.framed.drop 65 = t.message.bytes := by
  rw [framed_eq]
  exact List.drop_left' t.signature.length_eq

theorem length_framed (t : SignedTransfer) : t.framed.length = 65 + t.message.bytes.length := by
  rw [framed_eq, List.length_cons, List.length_append, t.signature.length_eq]
  omega

theorem framed_fits {sender : PublicKey} (h : request.compile sender = .ok t.message) :
    t.framed.length ≤ wireCapacity := by
  obtain ⟨-, -, hbytes⟩ := TransferRequest.compile_ok.mp h
  have hle := request.length_message_le sender
  rw [length_framed, hbytes, wireCapacity]
  omega

theorem exists_wire (h : t.framed.length ≤ wireCapacity) :
    ∃ wire, t.wire = .ok wire ∧ wire.bytes = t.framed := by
  have hflat : [CompactLength.encode 1, t.signature.bytes, t.message.bytes].flatten = t.framed := by
    simp [framed]
  obtain ⟨wire, hwire, -, hbytes⟩ := @WireBuffer.foldlM_append_ok
    [CompactLength.encode 1, t.signature.bytes, t.message.bytes] (WireBuffer.empty wireCapacity) (by
      rw [hflat]
      simpa [WireBuffer.empty] using h)
  rw [hflat] at hbytes
  exact ⟨wire, by simpa [SignedTransfer.wire, WireBuffer.pushLength_eq_append] using hwire, hbytes⟩

theorem base64_of_fits (h : t.framed.length ≤ wireCapacity) :
    t.base64 = .ok (Base64.encode t.framed) := by
  obtain ⟨wire, hwire, hbytes⟩ := exists_wire h
  rw [base64, hwire, ← hbytes]
  rfl

theorem ofRequest_ok :
    ofRequest keys request = .ok t ↔ request.compile keys.publicKey = .ok t.message ∧
      t.signature = keys.sign t.message.bytes := by
  rw [ofRequest, bind_ok]
  constructor
  · rintro ⟨compiled, hcompiled, ht⟩
    cases ht
    exact ⟨hcompiled, rfl⟩
  · rintro ⟨hcompiled, hsignature⟩
    exact ⟨t.message, hcompiled, by rw [← hsignature]; rfl⟩

theorem length_framed_le (h : ofRequest keys request = .ok t) :
    t.framed.length ≤ wireCapacity :=
  framed_fits (ofRequest_ok.mp h).1

theorem base64_of_ofRequest (h : ofRequest keys request = .ok t) :
    t.base64 = .ok (Base64.encode t.framed) :=
  base64_of_fits (length_framed_le h)

/-- A signed transfer is framed and written, and the text gives back the frame: the number of
signatures, the signature, and up to its end the message. The message is the one that was
compiled, the signature is the one that names the transfer, and every verifier that accepts
what is signed accepts it under the key of the signer in the message. -/
theorem verifies_as_submitted (h : ofRequest keys request = .ok t) :
    ∃ (wire : WireBuffer) (text : String),
      t.wire = .ok wire ∧ t.base64 = .ok text ∧
      Base64.decodeChars text.toList = some wire.bytes ∧
      CompactLength.decode wire.bytes = .ok (1, 1) ∧
      (wire.bytes.drop 1).take 64 = t.signature.bytes ∧ t.id = Base58.encode t.signature.bytes ∧
      wire.bytes.drop 65 = t.message.bytes ∧
      request.compile keys.publicKey = .ok t.message ∧
      ∃ signer : PublicKey, ((wire.bytes.drop 65).drop 4).take 32 = signer.bytes ∧
        ∀ verify : PublicKey → Bytes → Signature → Bool,
          (∀ seed message,
            verify (Ed25519.publicKey seed) message (Ed25519.sign seed message) = true) →
          verify signer (wire.bytes.drop 65) t.signature = true := by
  obtain ⟨hcompile, hsignature⟩ := ofRequest_ok.mp h
  obtain ⟨wire, hwire, hframed⟩ := exists_wire (length_framed_le h)
  have htext : Base64.decodeChars (Base64.encode t.framed).toList = some wire.bytes := by
    rw [Base64.encode, String.toList_ofList, Base64.decodeChars_encodeChars, hframed]
  obtain ⟨-, -, hmessage⟩ := TransferRequest.compile_ok.mp hcompile
  refine ⟨wire, _, hwire, base64_of_ofRequest h, htext, ?_⟩
  rw [hframed, drop_framed, take_framed]
  refine ⟨decode_framed t, rfl, rfl, rfl, hcompile, keys.publicKey, ?_, fun verify haccepts => ?_⟩
  · rw [hmessage]
    exact request.take_drop_message keys.publicKey
  · rw [hsignature, keys.publicKey_eq]
    exact haccepts keys.seed t.message.bytes

open Classical in
/-- A payment of 5000 with the memo `hi`, signed with the seed of 32 zeros. The verifier is
the curve's own one, completed so that it accepts whatever is signed; the curve's own one
accepts this payment too. -/
theorem verifies_as_submitted_hi :
    ∃ (t : SignedTransfer) (wire : WireBuffer) (signer : PublicKey),
      ofRequest (.ofSeed (.zero 32)) ⟨⟨List.replicate 32 0xcc, rfl⟩, 5000,
        ⟨List.replicate 32 0xbb, rfl⟩, some ⟨['h', 'i'], by decide, by decide, by decide⟩⟩ = .ok t ∧
      t.wire = .ok wire ∧ ((wire.bytes.drop 65).drop 4).take 32 = signer.bytes ∧
      (Ed25519.verify signer (wire.bytes.drop 65) t.signature ||
        decide (∃ seed, signer = Ed25519.publicKey seed ∧
          t.signature = Ed25519.sign seed (wire.bytes.drop 65))) = true ∧
      Ed25519.verify signer (wire.bytes.drop 65) t.signature = true := by
  let request : TransferRequest := ⟨⟨List.replicate 32 0xcc, rfl⟩, 5000,
    ⟨List.replicate 32 0xbb, rfl⟩, some ⟨['h', 'i'], by decide, by decide, by decide⟩⟩
  let keys : KeyPair := .ofSeed (.zero 32)
  have hfault : request.fault? keys.publicKey = none := by decide +kernel
  obtain ⟨compiled, hcompile⟩ := TransferRequest.exists_compile hfault
  obtain ⟨-, -, hmessage⟩ := TransferRequest.compile_ok.mp hcompile
  let t : SignedTransfer := ⟨keys.sign compiled.bytes, compiled⟩
  have ht : ofRequest keys request = .ok t := ofRequest_ok.mpr ⟨hcompile, rfl⟩
  obtain ⟨wire, text, hwire, -, -, -, -, -, hdrop, -, signer, hsigner, hverifies⟩ :=
    verifies_as_submitted ht
  have hkey : signer = keys.publicKey := by
    apply FixedBytes.ext_bytes
    rw [← hsigner, hdrop, hmessage]
    exact request.take_drop_message keys.publicKey
  refine ⟨t, wire, signer, ht, hwire, hsigner, ?_, ?_⟩
  · exact hverifies (fun key message signature => Ed25519.verify key message signature ||
      decide (∃ seed, key = Ed25519.publicKey seed ∧ signature = Ed25519.sign seed message))
      fun seed message => by simp only [Bool.or_eq_true, decide_eq_true_eq]
                             exact .inr ⟨seed, rfl, rfl⟩
  · have hcurve : Ed25519.verify keys.publicKey (request.message keys.publicKey).bytes
        (keys.sign (request.message keys.publicKey).bytes) = true := by
      decide +kernel
    rw [hkey, hdrop, hmessage]
    change Ed25519.verify keys.publicKey _ (keys.sign compiled.bytes) = true
    rw [hmessage]
    exact hcurve

end SlotWallet.SignedTransfer
