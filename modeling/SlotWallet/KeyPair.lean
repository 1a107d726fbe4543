import SlotWallet.Base58
import SlotWallet.Ed25519.Signature
import SlotWallet.Entropy

/-!
# Key pairs

The 32-byte seed is the only secret; the public key that goes with it is part of
the type's invariant.
-/

namespace SlotWallet

abbrev Seed := FixedBytes 32

abbrev PublicKey := FixedBytes 32

abbrev Signature := FixedBytes 64

def seedLength : Nat := 32

def publicKeyLength : Nat := 32

def signatureLength : Nat := 64

def PublicKey.address (key : PublicKey) : String := Base58.encode key.bytes

structure KeyPair where
  seed : Seed
  publicKey : PublicKey
  publicKey_eq : publicKey = Ed25519.publicKey seed

namespace KeyPair

def ofSeed (seed : Seed) : KeyPair := ⟨seed, Ed25519.publicKey seed, rfl⟩

def generate : Drawing KeyPair := do
  pure (ofSeed (← draw 32))

def address (keys : KeyPair) : String := PublicKey.address keys.publicKey

def sign (keys : KeyPair) (message : Bytes) : Signature := Ed25519.sign keys.seed message

/-- A form for diagnostics that leaves the seed out. -/
def describe (keys : KeyPair) : String :=
  "KeyPair \x7b address: " ++ Text.quoted keys.address.toList ++ ", .. \x7d"

end KeyPair

end SlotWallet
