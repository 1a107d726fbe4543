import SlotWallet.CommandLine

/-!
# The program

A run reads its command line, loads the configuration and does the command. It
ends with 0 when that went well, with 1 and a report when it did not, and with 2
when the command line makes no sense.
-/

namespace SlotWallet.Program

structure Environment where
  home : String
  rpcUrl : Option String

structure Outcome where
  code : Nat
  error : Option CommandError
  host : Host

def versionText : String := "cold-wallet 0.1.0\n"

def helpText : String :=
  "Usage: cold-wallet [--config <path>] [--slots-dir <path>] <create|show|airdrop|balance|send>\n"

def indented (indent text : String) : String :=
  String.ofList (text.toList.flatMap fun c => if c = '\n' then c :: indent.toList else [c])

def numberedCauses (n : Nat) : List String → String
  | [] => ""
  | cause :: rest => s!"\n    {n}: " ++ indented "       " cause ++ numberedCauses (n + 1) rest

def causes : List String → String
  | [] => ""
  | [cause] => "\n\nCaused by:\n    " ++ indented "    " cause
  | many => "\n\nCaused by:" ++ numberedCauses 0 many

def report (error : CommandError) : String :=
  match error.chain with
  | [] => "Error: \n"
  | outermost :: rest => "Error: " ++ outermost ++ causes rest ++ "\n"

def dispatch (config : Config) : CommandLine.Subcommand → Command Unit
  | .create slot force => Command.create config slot force
  | .showWallet slot verify raw => Command.showWallet config slot verify raw
  | .airdrop slot amount noWait => Command.airdrop config slot amount noWait
  | .balance slot address => Command.balance config slot address
  | .send args => Command.send config args

def execute (env : Environment) (invocation : CommandLine.Invocation) : Command Unit := do
  match Config.load (← get).files env.home invocation.config env.rpcUrl with
  | .error fault => throw (.config fault)
  | .ok config =>
    let config := { config with slotsDir := invocation.slotsDir.getD config.slotsDir }
    dispatch config invocation.command

def run (env : Environment) (args : List String) (host : Host) : Outcome :=
  match CommandLine.parse args with
  | .error .help => ⟨0, none, { host with output := host.output ++ helpText }⟩
  | .error .version => ⟨0, none, { host with output := host.output ++ versionText }⟩
  | .error .misuse => ⟨2, none, { host with errors := host.errors ++ helpText }⟩
  | .ok invocation =>
    match (execute env invocation).run.run host with
    | (.ok (), host) => ⟨0, none, host⟩
    | (.error e, host) => ⟨1, some e, { host with errors := host.errors ++ report e }⟩

end SlotWallet.Program
