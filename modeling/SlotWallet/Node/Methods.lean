import SlotWallet.Node.Call
import SlotWallet.Transfer.Signed

/-!
# The methods of a node

One call each, and of its answer only the one shape that is expected; any other
shape is a protocol failure.
-/

namespace SlotWallet.Client

variable {σ : Type} [Transport σ]

def commitment (level : String) : Json := .object [("commitment", .string level)]

def latestBlockhashCall : Call :=
  ⟨"getLatestBlockhash", .array [commitment "finalized"]⟩

def balanceCall (address : PublicKey) : Call :=
  ⟨"getBalance", .array [.string address.address, commitment "confirmed"]⟩

def airdropCall (address : PublicKey) (lamports : UInt64) : Call :=
  ⟨"requestAirdrop", .array [.string address.address, .int lamports.toNat]⟩

def statusCall (signature : String) : Call :=
  ⟨"getSignatureStatuses",
    .array [.array [.string signature], .object [("searchTransactionHistory", .bool true)]]⟩

def sendCall (transaction : String) : Call :=
  ⟨"sendTransaction", .array [.string transaction, .object [("encoding", .string "base64")]]⟩

def field (value : Json) (path : List String) : Except WalletError Json :=
  match value.path? path with
  | some v => pure v
  | none => throw (.protocol (.missingField (".".intercalate path)))

def nonEmptyText (expected : String) : Json → Except WalletError String
  | .string text =>
    if text = "" then throw (.protocol (.notText expected (.string text))) else pure text
  | other => throw (.protocol (.notText expected other))

def readBlockhash (result : Json) : Except WalletError Blockhash := do
  match ← field result ["value", "blockhash"] with
  | .string text =>
    match Base58.decodeFixed 32 text with
    | .ok hash => pure hash
    | .error fault => throw (.protocol (.badBlockhash fault))
  | _ => throw (.protocol .blockhashNotText)

def readBalance (result : Json) : Except WalletError UInt64 := do
  match ← field result ["value"] with
  | .int n =>
    if 0 ≤ n ∧ n < UInt64.size then pure (UInt64.ofNat n.toNat)
    else throw (.protocol .balanceNotUnsigned)
  | _ => throw (.protocol .balanceNotUnsigned)

def readStatus (result : Json) : Except WalletError Json :=
  match (result.get? "value").bind (·.at? 0) with
  | some entry => pure entry
  | none => throw (.protocol (.missingField "value[0]"))

def latestBlockhash : Client σ Blockhash := do
  lift (readBlockhash (← ask latestBlockhashCall))

def balance (address : PublicKey) : Client σ UInt64 := do
  lift (readBalance (← ask (balanceCall address)))

def requestAirdrop (address : PublicKey) (lamports : UInt64) : Client σ String := do
  lift (nonEmptyText "airdrop signature" (← ask (airdropCall address lamports)))

/-- The entry is null while the node has not seen the signature. -/
def signatureStatus (signature : String) : Client σ Json := do
  lift (readStatus (← ask (statusCall signature)))

def sendTransfer (transfer : SignedTransfer) : Client σ String := do
  let encoded ← lift (transfer.base64.mapError .invalidInput)
  lift (nonEmptyText "transaction signature" (← ask (sendCall encoded)))

end SlotWallet.Client
