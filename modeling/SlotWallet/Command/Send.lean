import SlotWallet.Command.Airdrop
import SlotWallet.Wallet

/-!
# Sending a transfer

All that was asked for is checked and shown before anything is asked: the wallet,
the amount, the recipient and the memo. Only a yes leads on to the password, and
only the right password to the node.
-/

namespace SlotWallet.Command

structure SendArgs where
  slot : Slot
  recipient : String
  amount : String
  /-- In place of the configured memo. -/
  memo : Option String
  noMemo : Bool
  skipConfirm : Bool
  noWait : Bool

/-- The memo to attach; an empty text means none. -/
def resolveMemo (config : Config) (args : SendArgs) : Command (Option Memo) :=
  if args.noMemo then pure none
  else
    let text := args.memo.getD config.defaultMemo
    if text = "" then pure none
    else
      match Memo.ofText text with
      | .ok memo => pure (some memo)
      | .error fault => throw (.badMemo fault)

structure Plan where
  key : StoredKey
  lamports : UInt64
  recipient : PublicKey
  memo : Option Memo

def plan (config : Config) (args : SendArgs) : Command Plan := do
  let key ← loadWallet config args.slot
  let lamports ← lift ((Amount.parse args.amount).mapError .invalidInput)
  let recipient ←
    match Base58.decodeFixed 32 args.recipient with
    | .ok recipient => pure recipient
    | .error fault => throw (.badRecipient fault)
  let memo ← resolveMemo config args
  if recipient = key.publicKey then throw .ownAddress
  pure { key, lamports, recipient, memo }

def showPlan (slot : Slot) (p : Plan) : Command Unit := do
  line s!"Using wallet stored in {slot.name}."
  line ""
  line "Transaction details:"
  line ("  From:      " ++ p.key.publicKey.address)
  line ("  To:        " ++ p.recipient.address)
  line (s!"  Amount:    {p.lamports} lamports (" ++ Amount.format p.lamports ++ ")")
  match p.memo with
  | some memo => line ("  Memo:      '" ++ memo.text ++ "'")
  | none => line "  Memo:      (none)"
  line ""

def submit (config : Config) (args : SendArgs) (p : Plan) : Command Unit := do
  let keys ← unlock config p.key
  let answer ← onNode config.rpcUrl (Wallet.sendTransfer keys p.recipient p.lamports p.memo)
  let signature ← lift answer
  line ""
  success ("Transaction submitted. Signature: " ++ signature)
  line ("View on Solscan: " ++ explorerLink config signature)
  if !args.noWait then
    line ""
    line "Waiting for transfer confirmation..."
    awaitSignature config "Transfer" signature config.transferPoll

def send (config : Config) (args : SendArgs) : Command Unit := do
  let p ← plan config args
  showPlan args.slot p
  let agreed ← if args.skipConfirm then pure true else confirm "Send this transaction?"
  if agreed then submit config args p else line "Aborted."

end SlotWallet.Command
