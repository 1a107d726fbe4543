import SlotWallet.Amount
import SlotWallet.Command.Basic
import SlotWallet.Node.Explorer

/-!
# Asking for an airdrop
-/

namespace SlotWallet.Command

def explorerLink (config : Config) (signature : String) : String :=
  Explorer.link signature (some config.rpcUrl)

def awaitSignature (config : Config) (what signature : String) (poll : PollConfig) :
    Command Unit := do
  let state ← onNode config.rpcUrl (Client.waitForConfirmation signature poll)
  reportConfirmation what signature state

def airdrop (config : Config) (slot : Slot) (amount : String) (noWait : Bool) : Command Unit := do
  let key ← loadWallet config slot
  let lamports ← lift ((Amount.parse amount).mapError .invalidInput)
  line s!"Using wallet stored in {slot.name}."
  line ("Public key: " ++ key.publicKey.address)
  let answer ← onNode config.rpcUrl (Client.requestAirdrop key.publicKey lamports)
  let signature ← lift answer
  line (s!"Requested {lamports} lamports (" ++ Amount.format lamports ++ ").")
  line ("Transaction signature: " ++ signature)
  line ("View on Solscan: " ++ explorerLink config signature)
  if !noWait then
    line ""
    line "Waiting for airdrop confirmation..."
    awaitSignature config "Airdrop" signature config.airdropPoll

end SlotWallet.Command
