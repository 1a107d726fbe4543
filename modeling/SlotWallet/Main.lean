import SlotWallet.Program

/-!
# The executable

The pure program runs on a copy of the files it may look at, and the files that
it made or changed are written back. An answer that turns out to be missing is
read, and the run is made again with it: it does the same up to that prompt.
Secure connections are not to be had, so every node is out of reach.
-/

namespace SlotWallet.Executable

def pathText (place : Place) : String := "/" ++ String.intercalate "/" place

def entryOnDisk? (place : Place) : IO (Option FileEntry) := do
  let root ← IO.currentDir
  let path := root / pathText place
  if ← path.isDir then pure (some (.directory []))
  else
    try
      let contents ← IO.FS.readBinFile path
      pure (some (.file FileTree.sharedMode contents.toList))
    catch _ => pure none

def copyAlong (files : FileTree) : Place → List String → IO FileTree
  | _, [] => pure files
  | place, name :: rest => do
    if name = ".." then copyAlong files place.dropLast rest
    else
      let place := place ++ [name]
      if files.isDirectoryAt place then copyAlong files place rest
      else
        match ← entryOnDisk? place with
        | none => pure files
        | some entry => copyAlong (files.put place entry) place rest

def copyPath (files : FileTree) (path : String) : IO FileTree :=
  copyAlong files (files.origin path) (FileTree.significantNames path)

def environment : IO Program.Environment := do
  pure ⟨((← IO.getEnv "HOME").filter (· ≠ "")).getD ".", ← IO.getEnv "SOLANA_RPC_URL"⟩

def copyFiles (env : Program.Environment) (args : List String) : IO FileTree := do
  let start := FileTree.significantNames (← IO.currentDir).toString
  let files ← copyPath ⟨[], []⟩ (pathText start)
  let files := { files with start }
  match CommandLine.parse args with
  | .error _ => pure files
  | .ok invocation =>
    let files ← copyPath files (invocation.config.getD (Config.defaultPath env.home))
    match Config.load files env.home invocation.config env.rpcUrl with
    | .error _ => pure files
    | .ok config =>
      let directory := invocation.slotsDir.getD config.slotsDir
      let store : SlotDirectory := ⟨directory, files⟩
      Slot.all.foldlM (fun files slot => copyPath files (store.slotPath slot)) files

def randomLength : Nat := seedLength + SealedSeed.saltLength + SealedSeed.nonceLength

def newHost (files : FileTree) : IO Host := do
  let random ← IO.getRandomBytes (USize.ofNat randomLength)
  pure { random := random.toList
         passwords := []
         input := []
         files
         node := ⟨false, [], []⟩
         nextId := HttpLink.firstId
         output := ""
         errors := ""
         linePrompts := [] }

def readHidden? : IO (Option String) := do
  try
    let terminal ← IO.FS.Handle.mk "/dev/tty" .readWrite
    terminal.putStr "\x1b[8m"
    terminal.flush
    let typed ← terminal.getLine
    terminal.putStr "\x1b[0m"
    terminal.flush
    let password := typed.toList.filter fun c => c ≠ '\n' ∧ c ≠ '\r'
    pure (if typed.isEmpty then none else some (String.ofList password))
  catch _ => pure none

def showOutput (output : String) (shown limit : Nat) : IO Unit := do
  let stdout ← IO.getStdout
  stdout.putStr (String.ofList ((output.toList.take limit).drop shown))
  stdout.flush

/-- Runs with the answers so far, of which `lines` came from standard input, and
asks for the first that is missing. Without one there, the outcome stands. -/
partial def converse (run : Host → Program.Outcome) (host : Host) (shown lines : Nat) :
    IO Program.Outcome := do
  let outcome := run host
  let output := outcome.host.output
  match outcome.host.linePrompts[lines]? with
  | some limit =>
    showOutput output shown limit
    let typed ← (← IO.getStdin).getLine
    if typed.isEmpty then
      showOutput output limit output.length
      pure outcome
    else converse run { host with input := host.input ++ typed.toList } limit (lines + 1)
  | none =>
    showOutput output shown output.length
    match outcome.error with
    | some .noPassword =>
      match ← readHidden? with
      | none => pure outcome
      | some password =>
        converse run { host with passwords := host.passwords ++ [password] } output.length lines
    | _ => pure outcome

partial def writeBack (old : FileTree) (place : Place) : FileEntry → IO Unit
  | .directory members => do
    if !old.isDirectoryAt place then IO.FS.createDir (pathText place)
    for (name, entry) in members do
      writeBack old (place ++ [name]) entry
  | .file mode contents => do
    let path := pathText place
    match old.lookup? place with
    | some (.file _ before) =>
      if before ≠ contents then IO.FS.writeBinFile path ⟨contents.toArray⟩
    | _ =>
      IO.FS.writeBinFile path ⟨contents.toArray⟩
      if mode = FileTree.privateMode then
        IO.setAccessRights path ⟨⟨true, true, false⟩, ⟨false, false, false⟩,
          ⟨false, false, false⟩⟩

end SlotWallet.Executable

open SlotWallet in
def main (args : List String) : IO UInt32 := do
  let env ← Executable.environment
  let files ← Executable.copyFiles env args
  let outcome ← Executable.converse (Program.run env args) (← Executable.newHost files) 0 0
  Executable.writeBack files [] (.directory outcome.host.files.members)
  let stderr ← IO.getStderr
  stderr.putStr outcome.host.errors
  stderr.flush
  pure (UInt32.ofNat outcome.code)
