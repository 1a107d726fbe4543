import SlotWallet.Hash.Sha512

/-!
# HMAC-SHA512 and PBKDF2

A key of at most one block is filled with zeros and a longer one is hashed
first; so keys that differ only in zeros at the end are one key. Of a key only
the two states after its padded blocks are kept, and the many rounds of key
stretching start from these.
-/

namespace SlotWallet.Hmac

open Sha512

def blockLength : Nat := 128

def keyBlock (key : Bytes) : Bytes :=
  let short := if key.length ≤ blockLength then key else (digest key).toBytes
  short ++ List.replicate (blockLength - short.length) 0

/-- The states after the inner and the outer padded key block. -/
structure Key where
  inner : State
  outer : State

def Key.ofBytes (key : Bytes) : Key :=
  let block := keyBlock key
  ⟨compress initial (.ofBytes (block.map (· ^^^ 0x36))),
    compress initial (.ofBytes (block.map (· ^^^ 0x5c)))⟩

def Key.sign (key : Key) (message : Bytes) : State :=
  finishDigest key.outer (finish key.inner blockLength message)

def Key.signDigest (key : Key) (message : State) : State :=
  finishDigest key.outer (finishDigest key.inner message)

theorem Key.signDigest_eq_sign (key : Key) (message : State) :
    key.signDigest message = key.sign message.toBytes := by
  rw [Key.signDigest, finishDigest_eq_finish key.inner]
  rfl

def sign (key message : Bytes) : State := (Key.ofBytes key).sign message

def Key.stretch (key : Key) : Nat → State → State → State
  | 0, _, folded => folded
  | count + 1, last, folded =>
    let next := key.signDigest last
    key.stretch count next (folded.xor next)

/-- PBKDF2 with an output of one digest. -/
def pbkdf2 (password salt : Bytes) (iterations : Nat) : State :=
  let key := Key.ofBytes password
  let first := key.sign (salt ++ [0, 0, 0, 1])
  key.stretch (iterations - 1) first first

theorem pbkdf2_congr {a b : Bytes} (h : keyBlock a = keyBlock b) : pbkdf2 a = pbkdf2 b := by
  funext salt iterations
  simp [pbkdf2, Key.ofBytes, h]

end SlotWallet.Hmac
