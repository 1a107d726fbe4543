import SlotWallet.Config.File
import SlotWallet.Node.Http
import SlotWallet.Slot.Directory
import SlotWallet.Text.LowerCase

/-!
# What a command works on

A command runs on a host: the answers its prompts will get, its random source,
its files, the node at the other end of the line, and what it has printed so far.
It ends with a value or with an error that tells what was being done and why that
failed.
-/

namespace SlotWallet

structure Host where
  random : Bytes
  passwords : List String
  input : List Char
  files : FileTree
  node : HttpNode
  nextId : Nat
  output : String
  errors : String
  /-- For each line asked for so far, how long the output was by then. -/
  linePrompts : List Nat

inductive CommandError where
  | config (fault : Config.Fault)
  | noWallet (slot : Slot)
  | unreadableWallet (slot : Slot) (cause : WalletError)
  | wrongPassword
  | noPassword
  | ownAddress
  | badRecipient (cause : InputFault)
  | badPublicKey (cause : InputFault)
  | badMemo (cause : InputFault)
  | failed (cause : WalletError)

namespace CommandError

def chain : CommandError → List String
  | .config fault => fault.chain
  | .noWallet slot =>
    [s!"No wallet in {slot.name}. Run 'cold-wallet create --slot {slot.name}' first."]
  | .unreadableWallet slot cause =>
    [s!"Failed to read the wallet in {slot.name}", cause.message]
  | .wrongPassword => ["Failed to decrypt wallet - wrong password?"]
  | .noPassword => ["no password"]
  | .ownAddress => ["Recipient is this wallet's own address"]
  | .badRecipient cause =>
    ["Invalid recipient public key", (WalletError.invalidInput cause).message]
  | .badPublicKey cause => ["Invalid public key", (WalletError.invalidInput cause).message]
  | .badMemo cause => ["Invalid memo", (WalletError.invalidInput cause).message]
  | .failed cause => [cause.message]

def root? : CommandError → Option WalletError
  | .unreadableWallet _ cause | .failed cause => some cause
  | .badRecipient cause | .badPublicKey cause | .badMemo cause => some (.invalidInput cause)
  | _ => none

end CommandError

abbrev Command := ExceptT CommandError (StateM Host)

namespace Command

def lift {α : Type} : Except WalletError α → Command α
  | .ok a => pure a
  | .error e => throw (.failed e)

def write (text : String) : Command Unit :=
  modify fun host => { host with output := host.output ++ text }

def line (text : String) : Command Unit := write (text ++ "\n")

def coloured (code : Nat) (text : String) : String :=
  s!"\x1b[{code}m{text}\x1b[0m"

def success (text : String) : Command Unit := line (coloured 32 text)

def warning (text : String) : Command Unit := line (coloured 33 "Warning:" ++ " " ++ text)

def complain (text : String) : Command Unit :=
  modify fun host =>
    { host with errors := host.errors ++ coloured 31 "Error:" ++ " " ++ text ++ "\n" }

def askPassword (prompt : String) : Command String := do
  write prompt
  let host ← get
  set { host with passwords := host.passwords.tail }
  match host.passwords with
  | password :: _ => pure password
  | [] => throw .noPassword

def isYes (answer : List Char) : Bool :=
  let answer := Text.trim answer
  Text.sameLetters answer ['y'] || Text.sameLetters answer ['y', 'e', 's']

/-- Asks a question that the next line of input answers; the end of input means
no. -/
def confirm (question : String) : Command Bool := do
  write (question ++ " [y/N]: ")
  let host ← get
  let answer := host.input.takeWhile (· ≠ '\n')
  set { host with
    input := (host.input.dropWhile (· ≠ '\n')).drop 1
    linePrompts := host.linePrompts ++ [host.output.length] }
  pure (isYes answer)

def onNode {α : Type} (url : String) (action : HttpLink → α × HttpLink) : Command α := do
  let host ← get
  let (a, link) := action ⟨url, HttpLink.defaultMaxHops, host.nextId, host.node⟩
  set { host with nextId := link.nextId, node := link.node }
  pure a

def slots (config : Config) : Command SlotDirectory := do
  pure ⟨config.slotsDir, (← get).files⟩

def loadWallet (config : Config) (slot : Slot) : Command StoredKey := do
  let store ← slots config
  if store.holds slot then
    match StoredKey.load store slot with
    | .ok key => pure key
    | .error e => throw (.unreadableWallet slot e)
  else throw (.noWallet slot)

def unlock (config : Config) (key : StoredKey) : Command KeyPair := do
  let password ← askPassword "Enter wallet password: "
  match key.unlock (Text.toBytes password.toList) config.kdfIterations with
  | .ok keys => pure keys
  | .error _ => throw .wrongPassword

def reportConfirmation (what signature : String) (state : Confirmation) : Command Unit := do
  match state with
  | .confirmed => success s!"{what} confirmed."
  | .failed cause => complain (s!"{what} confirmation returned an error: " ++ cause.print)
  | .timedOut | .pending =>
    complain
      ("Timed out waiting for " ++ String.ofList (Text.lower what.toList) ++ " confirmation.")
  lift (state.toResult signature)

end Command

end SlotWallet
