import SlotWallet.Amount
import SlotWallet.Command.Basic

/-!
# Asking for a balance

The balance of a given address, or else of the wallet in a slot.
-/

namespace SlotWallet.Command

def balanceOwner (config : Config) (slot : Slot) : Option String → Command PublicKey
  | some address =>
    match Base58.decodeFixed 32 address with
    | .ok key => pure key
    | .error fault => throw (.badPublicKey fault)
  | none => do
    let key ← loadWallet config slot
    line s!"Using wallet stored in {slot.name}."
    pure key.publicKey

def balance (config : Config) (slot : Slot) (address : Option String) : Command Unit := do
  let owner ← balanceOwner config slot address
  line ("Public key: " ++ owner.address)
  let answer ← onNode config.rpcUrl (Client.balance owner)
  let lamports ← lift answer
  line ""
  success (s!"Balance: {lamports} lamports (" ++ Amount.format lamports ++ ")")

end SlotWallet.Command
