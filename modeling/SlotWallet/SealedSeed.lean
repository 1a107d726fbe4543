import SlotWallet.Hash.Hmac
import SlotWallet.KeyPair

/-!
# Sealed seeds

A seed at rest is encrypted under a password and then authenticated:

    master = PBKDF2-HMAC-SHA512 (password, salt, iterations)
    ct     = (seed ++ public key) xor HMAC-SHA512 (master, "ENC" ++ nonce)
    tag    = the first half of HMAC-SHA512 (HMAC-SHA512 (master, "MAC" ++ nonce), nonce ++ ct)
    form   = version ++ salt ++ nonce ++ ct ++ tag

The iteration count is not part of the form. Opening fails in one way only.
-/

namespace SlotWallet

structure SealedSeed where
  salt : FixedBytes 16
  nonce : FixedBytes 12
  ciphertext : FixedBytes 64
  tag : FixedBytes 32
deriving DecidableEq

namespace SealedSeed

def version : UInt8 := 1

def saltLength : Nat := 16

def nonceLength : Nat := 12

def plaintextLength : Nat := 64

def tagLength : Nat := 32

def length : Nat := 1 + saltLength + nonceLength + plaintextLength + tagLength

def defaultIterations : UInt32 := 200000

def masterKey (password : Bytes) (salt : FixedBytes 16) (iterations : UInt32) : FixedBytes 64 :=
  (Hmac.pbkdf2 password salt.bytes iterations.toNat).fixedBytes

def subkey (master : FixedBytes 64) (label : Bytes) (nonce : FixedBytes 12) : FixedBytes 64 :=
  (Hmac.sign master.bytes (label ++ nonce.bytes)).fixedBytes

def encryptionLabel : Bytes := [0x45, 0x4e, 0x43]

def tagLabel : Bytes := [0x4d, 0x41, 0x43]

def computeTag (master : FixedBytes 64) (nonce : FixedBytes 12) (ciphertext : FixedBytes 64) :
    FixedBytes 32 :=
  let key := subkey master tagLabel nonce
  (Hmac.sign key.bytes (nonce.bytes ++ ciphertext.bytes)).fixedBytes.firstHalf

def sealBytes (password : Bytes) (plaintext : FixedBytes 64) (salt : FixedBytes 16)
    (nonce : FixedBytes 12) (iterations : UInt32) : SealedSeed :=
  let master := masterKey password salt iterations
  let ciphertext := plaintext.xor (subkey master encryptionLabel nonce)
  ⟨salt, nonce, ciphertext, computeTag master nonce ciphertext⟩

def openBytes (s : SealedSeed) (password : Bytes) (iterations : UInt32) :
    Except WalletError (FixedBytes 64) :=
  if password = [] ∨ iterations = 0 then throw .crypto
  else
    let master := masterKey password s.salt iterations
    if computeTag master s.nonce s.ciphertext = s.tag then
      pure (s.ciphertext.xor (subkey master encryptionLabel s.nonce))
    else throw .crypto

theorem openBytes_sealBytes {password : Bytes} {iterations : UInt32} (plaintext : FixedBytes 64)
    (salt : FixedBytes 16) (nonce : FixedBytes 12) (hp : password ≠ []) (hi : iterations ≠ 0) :
    (sealBytes password plaintext salt nonce iterations).openBytes password iterations =
      .ok plaintext := by
  simp [openBytes, sealBytes, hp, hi, FixedBytes.xor_xor_cancel, pure, Except.pure]

/-- Seals a seed with its public key behind it; the salt is drawn before the
nonce. -/
def ofSeed (password : Bytes) (seed : Seed) (iterations : UInt32) : Drawing SealedSeed := do
  if password = [] then throw (.invalidInput .emptyPassword)
  if iterations = 0 then throw (.invalidInput .noIterations)
  let salt ← draw 16
  let nonce ← draw 12
  pure (sealBytes password (seed.append (Ed25519.publicKey seed)) salt nonce iterations)

/-- The seed is the first half of what was sealed, whatever the second half holds. -/
def openSeed (s : SealedSeed) (password : Bytes) (iterations : UInt32) :
    Except WalletError Seed := do
  let plaintext ← s.openBytes password iterations
  pure (plaintext.firstHalf)

def toBytes (s : SealedSeed) : Bytes :=
  version :: (s.salt.bytes ++ s.nonce.bytes ++ s.ciphertext.bytes ++ s.tag.bytes)

@[simp] theorem length_toBytes (s : SealedSeed) : s.toBytes.length = length := by
  simp [toBytes, s.salt.length_eq, s.nonce.length_eq, s.ciphertext.length_eq, s.tag.length_eq,
    length, saltLength, nonceLength, plaintextLength, tagLength]

/-- Reads the byte form. A wrong length and a wrong version look the same. -/
def ofBytes? (bytes : Bytes) : Option SealedSeed :=
  match bytes with
  | [] => none
  | v :: body =>
    if h : v = version ∧ body.length = 124 then
      some {
        salt := ⟨body.take 16, by simp [h.2]⟩
        nonce := ⟨(body.drop 16).take 12, by simp [h.2]⟩
        ciphertext := ⟨(body.drop 28).take 64, by simp [h.2]⟩
        tag := ⟨body.drop 92, by simp [h.2]⟩ }
    else none

theorem ofBytes?_toBytes (s : SealedSeed) : ofBytes? s.toBytes = some s := by
  have h1 := s.salt.length_eq
  have h2 := s.nonce.length_eq
  have h3 := s.ciphertext.length_eq
  have h4 := s.tag.length_eq
  have hl : (s.salt.bytes ++ s.nonce.bytes ++ s.ciphertext.bytes ++ s.tag.bytes).length = 124 := by
    simp [h1, h2, h3, h4]
  unfold toBytes ofBytes?
  simp only [hl, and_self, dite_true]
  congr 1
  cases s with
  | mk salt nonce ciphertext tag =>
    simp only [mk.injEq]
    simp only at h1 h2 h3 h4
    refine ⟨?_, ?_, ?_, ?_⟩ <;> apply FixedBytes.ext_bytes
    · simp [h1]
    · simp [h1, h2]
    · simp [h1, h2, h3, List.take_append, List.drop_append]
    · have d1 : salt.bytes.drop 92 = [] := List.drop_of_length_le (by omega)
      have d2 : nonce.bytes.drop 76 = [] := List.drop_of_length_le (by omega)
      simp [h1, h2, h3, d1, d2, List.drop_append]

def ofBytes (bytes : Bytes) : Except WalletError SealedSeed :=
  match ofBytes? bytes with
  | some s => pure s
  | none => throw .crypto

end SealedSeed

end SlotWallet
