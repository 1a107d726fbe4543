import SlotWallet.Confirmation
import SlotWallet.FileTree.Path
import SlotWallet.SealedSeed
import SlotWallet.Text.Blank

/-!
# Configuration

Every setting has a default. The address of the node must be `https`; any other
is replaced by the default one.
-/

namespace SlotWallet

structure Config where
  rpcUrl : String
  rpcTimeoutMs : UInt64
  slotsDir : String
  pollIntervalMs : UInt64
  airdropTimeoutSecs : UInt64
  transferTimeoutSecs : UInt64
  defaultMemo : String
  /-- Not kept with a wallet: it opens only under the count it was made with. -/
  kdfIterations : UInt32
deriving DecidableEq

namespace Config

def defaultRpcUrl : String := "https://api.devnet.solana.com"

def defaultRpcTimeoutMs : UInt64 := 10000

def directory (home : String) : String := FileTree.join home ".cold-wallet"

def defaultPath (home : String) : String := FileTree.join (directory home) "config.toml"

def default (home : String) : Config where
  rpcUrl := defaultRpcUrl
  rpcTimeoutMs := defaultRpcTimeoutMs
  slotsDir := FileTree.join (directory home) "slots"
  pollIntervalMs := 1000
  airdropTimeoutSecs := 30
  transferTimeoutSecs := 60
  defaultMemo := SlotWallet.defaultMemo
  kdfIterations := SealedSeed.defaultIterations

def isSecure (url : List Char) : Bool := "https://".toList.isPrefixOf url

def resolveRpcUrl (candidate : Option String) : String :=
  match candidate with
  | none => defaultRpcUrl
  | some text =>
    let url := Text.trim text.toList
    if isSecure url then String.ofList url else defaultRpcUrl

/-- Takes the address from `value` unless that is blank, and makes sure that the
result is secure. -/
def overrideRpcUrl (config : Config) (value : Option String) : Config :=
  let candidate :=
    match value with
    | some text => if Text.trim text.toList = [] then config.rpcUrl else text
    | none => config.rpcUrl
  { config with rpcUrl := resolveRpcUrl (some candidate) }

def airdropPoll (config : Config) : PollConfig :=
  .ofSettings config.airdropTimeoutSecs.toNat config.pollIntervalMs.toNat

def transferPoll (config : Config) : PollConfig :=
  .ofSettings config.transferTimeoutSecs.toNat config.pollIntervalMs.toNat

end Config

end SlotWallet
