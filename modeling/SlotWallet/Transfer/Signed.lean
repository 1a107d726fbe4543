import SlotWallet.Base64
import SlotWallet.Transfer.Message

/-!
# Signed transfers

A signed transfer is framed as one signature behind its number and the message
it signs, and is submitted in base64.
-/

namespace SlotWallet

structure SignedTransfer where
  signature : Signature
  message : WireBuffer

namespace SignedTransfer

def wireCapacity : Nat := 1024

def ofRequest (keys : KeyPair) (request : TransferRequest) : Except InputFault SignedTransfer := do
  let message ← request.compile keys.publicKey
  pure ⟨keys.sign message.bytes, message⟩

def id (t : SignedTransfer) : String := Base58.encode t.signature.bytes

def wire (t : SignedTransfer) : Except InputFault WireBuffer := do
  let b ← (WireBuffer.empty wireCapacity).pushLength 1
  let b ← b.append t.signature.bytes
  b.append t.message.bytes

def base64 (t : SignedTransfer) : Except InputFault String := do
  pure (Base64.encode (← t.wire).bytes)

def describe (t : SignedTransfer) : String :=
  "SignedTransaction \x7b signature: " ++ Text.quoted t.id.toList ++
    s!", message_len: {t.message.bytes.length} \x7d"

end SignedTransfer

end SlotWallet
