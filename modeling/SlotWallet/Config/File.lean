import SlotWallet.Config.Basic
import SlotWallet.FileTree.Directories
import SlotWallet.Toml.Grammar
import SlotWallet.Toml.Writer

/-!
# Configuration files

A configuration is kept as one line a setting. Reading takes the default of a
setting that is missing and passes over keys it does not know; writing fails for
a number that does not fit 64 bits with its sign, before it touches the file.
-/

namespace SlotWallet.Config

inductive Fault where
  | cannotRead (path : String) (cause : OsError)
  | notText (path : String)
  | cannotParse (path : String)
  | cannotSerialize
  | cannotMakeDirectory (cause : OsError)
  | cannotWrite (path : String) (cause : OsError)

def Fault.chain : Fault → List String
  | .cannotRead path cause => [s!"Failed to read config from {path}", cause.message]
  | .notText path => [s!"Failed to read config from {path}", "stream did not contain valid UTF-8"]
  | .cannotParse path => [s!"Failed to parse config from {path}"]
  | .cannotSerialize => ["Failed to serialize config"]
  | .cannotMakeDirectory cause => [cause.message]
  | .cannotWrite path cause => [s!"Failed to write config to {path}", cause.message]

def textAt? (table : Toml.Members) (key fallback : String) : Option String :=
  match table.lookup key with
  | none => some fallback
  | some (.string text) => some text
  | some _ => none

def numberAt? (table : Toml.Members) (key : String) (fallback limit : Nat) : Option Nat :=
  match table.lookup key with
  | none => some fallback
  | some (.integer n) => if 0 ≤ n ∧ n < limit then some n.toNat else none
  | some _ => none

def ofTable? (base : Config) (table : Toml.Members) : Option Config := do
  let word (key : String) (fallback : UInt64) := do
    pure (UInt64.ofNat (← numberAt? table key fallback.toNat UInt64.size))
  let rpcUrl ← textAt? table "rpc_url" base.rpcUrl
  let rpcTimeoutMs ← word "rpc_timeout_ms" base.rpcTimeoutMs
  let slotsDir ← textAt? table "slots_dir" base.slotsDir
  let pollIntervalMs ← word "poll_interval_ms" base.pollIntervalMs
  let airdropTimeoutSecs ← word "airdrop_timeout_secs" base.airdropTimeoutSecs
  let transferTimeoutSecs ← word "transfer_timeout_secs" base.transferTimeoutSecs
  let defaultMemo ← textAt? table "default_memo" base.defaultMemo
  let kdfIterations ← numberAt? table "kdf_iterations" base.kdfIterations.toNat UInt32.size
  pure { rpcUrl, rpcTimeoutMs, slotsDir, pollIntervalMs, airdropTimeoutSecs, transferTimeoutSecs,
         defaultMemo, kdfIterations := UInt32.ofNat kdfIterations }

def parse? (home : String) (text : List Char) : Option Config := do
  ofTable? (default home) (← Toml.readDocument? text)

def loadFile (files : FileTree) (home path : String) : Except Fault Config :=
  match files.read path with
  | .error e => throw (.cannotRead path e)
  | .ok bytes =>
    match Text.ofBytes? bytes with
    | none => throw (.notText path)
    | some text =>
      match parse? home text.toList with
      | some config => pure config
      | none => throw (.cannotParse path)

/-- Loads from `path`, or from the default path if there is a file, and then
applies the override of the environment. -/
def load (files : FileTree) (home : String) (path override : Option String) :
    Except Fault Config := do
  let config ←
    match path with
    | some path => loadFile files home path
    | none =>
      if files.exists? (defaultPath home) then loadFile files home (defaultPath home)
      else pure (default home)
  pure (config.overrideRpcUrl override)

/-- The lines of a configuration; a number beyond 63 bits has none. -/
def write? (config : Config) : Option (List Char) := do
  let word (n : UInt64) : Option (List Char) :=
    if Toml.fitsSigned n.toNat then some (Decimal.ofNat n.toNat) else none
  let line (key : String) (value : List Char) := Toml.assignment key.toList value
  let text (t : String) := Toml.stringChars t.toList
  pure (line "rpc_url" (text config.rpcUrl) ++
    line "rpc_timeout_ms" (← word config.rpcTimeoutMs) ++
    line "slots_dir" (text config.slotsDir) ++
    line "poll_interval_ms" (← word config.pollIntervalMs) ++
    line "airdrop_timeout_secs" (← word config.airdropTimeoutSecs) ++
    line "transfer_timeout_secs" (← word config.transferTimeoutSecs) ++
    line "default_memo" (text config.defaultMemo) ++
    line "kdf_iterations" (Decimal.ofNat config.kdfIterations.toNat))

def save (config : Config) (files : FileTree) (path : String) : Except Fault Unit × FileTree :=
  match files.makeDirectories (FileTree.above path) with
  | (.error e, files) => (.error (.cannotMakeDirectory e), files)
  | (.ok (), files) =>
    match config.write? with
    | none => (.error .cannotSerialize, files)
    | some text =>
      match files.write path FileTree.sharedMode (Text.toBytes text) with
      | .error e => (.error (.cannotWrite path e), files)
      | .ok files => (.ok (), files)

end SlotWallet.Config
