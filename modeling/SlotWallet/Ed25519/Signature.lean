import SlotWallet.Ed25519.Curve
import SlotWallet.Hash.Sha512

/-!
# Signing and verifying

The seed is hashed into a secret multiplier and a string that makes each nonce.
Verifying is strict about the form of the signature and takes the equation
without a cofactor, so the first half must be the canonical form of the point
that the second half gives.
-/

namespace SlotWallet.Ed25519

def clamp (n : Nat) : Nat := n % (1 <<< 254) / 8 * 8 + (1 <<< 254)

structure SecretKey where
  multiplier : Nat
  noncePart : Bytes

def SecretKey.ofSeed (seed : FixedBytes 32) : SecretKey :=
  let h := (Sha512.digest seed.bytes).toBytes
  ⟨clamp (Bytes.littleEndian (h.take 32)), h.drop 32⟩

def publicKey (seed : FixedBytes 32) : FixedBytes 32 :=
  (Point.smul (SecretKey.ofSeed seed).multiplier .base).encode

def hashToScalar (message : Bytes) : Nat :=
  Bytes.littleEndian (Sha512.digest message).toBytes % order

def challenge (r key : FixedBytes 32) (message : Bytes) : Nat :=
  hashToScalar (r.bytes ++ key.bytes ++ message)

def encodeScalar (n : Nat) : FixedBytes 32 :=
  ⟨Bytes.ofLittleEndian 32 n, Bytes.length_ofLittleEndian ..⟩

def sign (seed : FixedBytes 32) (message : Bytes) : FixedBytes 64 :=
  let secret := SecretKey.ofSeed seed
  let nonce := hashToScalar (secret.noncePart ++ message)
  let r := (Point.smul nonce .base).encode
  let k := challenge r (publicKey seed) message
  r.append (encodeScalar ((nonce + k * secret.multiplier) % order))

def verify (key : FixedBytes 32) (message : Bytes) (signature : FixedBytes 64) : Bool :=
  let r : FixedBytes 32 := signature.firstHalf
  let s := Bytes.littleEndian (signature.bytes.drop 32)
  match Point.decode? key with
  | none => false
  | some a =>
    s < order &&
      ((Point.smul s .base).add (Point.smul (challenge r key message) a.neg)).encode == r

end SlotWallet.Ed25519
