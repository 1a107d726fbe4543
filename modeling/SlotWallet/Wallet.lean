import SlotWallet.Node.Methods
import SlotWallet.Slot.Store

/-!
# Wallet operations

Making a wallet in a slot, unlocking it, and the two requests that move money.
None of them prompts or prints.
-/

namespace SlotWallet.Wallet

section Slots

variable {σ : Type} [SlotStore σ]

/-- A new key pair, sealed; the seed is drawn first. -/
def generateStored (password : Bytes) (iterations : UInt32) : Drawing StoredKey := do
  StoredKey.ofKeys (← KeyPair.generate) password iterations

def create (store : σ) (slot : Slot) (password : Bytes) (iterations : UInt32) (source : Bytes) :
    Except WalletError StoredKey × σ :=
  match generateStored password iterations source with
  | .error e => (.error e, store)
  | .ok (key, _) =>
    match key.save store slot with
    | (.ok (), store) => (.ok key, store)
    | (.error e, store) => (.error e, store)

def unlock (store : σ) (slot : Slot) (password : Bytes) (iterations : UInt32) :
    Except WalletError KeyPair := do
  (← StoredKey.load store slot).unlock password iterations

end Slots

section Calls

variable {σ : Type} [Transport σ]

def sendTransfer (keys : KeyPair) (recipient : PublicKey) (lamports : UInt64) (memo : Option Memo) :
    Client σ String := do
  let blockhash ← Client.latestBlockhash
  let transfer ← Client.lift
    ((SignedTransfer.ofRequest keys ⟨recipient, lamports, blockhash, memo⟩).mapError .invalidInput)
  Client.sendTransfer transfer

end Calls

end SlotWallet.Wallet
