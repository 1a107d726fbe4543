import SlotWallet.SealedSeed

/-!
# Wallets as they are kept

A slot holds the public key in the clear and behind it the sealed seed. The
public key is a label: when the two disagree, the sealed seed decides.
-/

namespace SlotWallet

structure StoredKey where
  publicKey : PublicKey
  sealedSeed : SealedSeed
deriving DecidableEq

namespace StoredKey

def length : Nat := publicKeyLength + SealedSeed.length

def ofKeys (keys : KeyPair) (password : Bytes) (iterations : UInt32) : Drawing StoredKey := do
  pure ⟨keys.publicKey, ← SealedSeed.ofSeed password keys.seed iterations⟩

def unlock (key : StoredKey) (password : Bytes) (iterations : UInt32) :
    Except WalletError KeyPair := do
  pure (.ofSeed (← key.sealedSeed.openSeed password iterations))

def payload (key : StoredKey) : Bytes := key.publicKey.bytes ++ key.sealedSeed.toBytes

@[simp] theorem length_payload (key : StoredKey) : key.payload.length = length := by
  simp [payload, key.publicKey.length_eq, length, publicKeyLength]

def ofPayload (payload : Bytes) : Except WalletError StoredKey :=
  if h : payload.length = length then do
    pure ⟨⟨payload.take 32, by simp [h, length, publicKeyLength]⟩,
      ← SealedSeed.ofBytes (payload.drop 32)⟩
  else throw (.storage (.walletLength length payload.length))

theorem ofPayload_payload (key : StoredKey) : ofPayload key.payload = .ok key := by
  have hd : key.payload.drop 32 = key.sealedSeed.toBytes := by
    simp [payload, key.publicKey.length_eq]
  have ht : key.payload.take 32 = key.publicKey.bytes := by
    simp [payload, key.publicKey.length_eq]
  simp only [ofPayload, length_payload, dite_true, hd, SealedSeed.ofBytes,
    SealedSeed.ofBytes?_toBytes]
  simp [ht, pure, Except.pure, bind, Except.bind]

end StoredKey

end SlotWallet
