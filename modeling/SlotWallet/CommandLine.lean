import SlotWallet.Command.Airdrop
import SlotWallet.Command.Balance
import SlotWallet.Command.Create
import SlotWallet.Command.Send
import SlotWallet.Command.Show

/-!
# The command line

Options are `--name value`, `--name=value`, `-n value`, `-nvalue` or `-n=value`;
one-letter flags may be joined. None may be given twice at the same place. After
`--` every word is an argument. Three options are understood before and after
the name of the command, and there the later place counts.
-/

namespace SlotWallet.CommandLine

structure OptionSpec where
  name : String
  letter : Option Char
  takesValue : Bool
  accepts : String → Bool

/-- Options with their values, a flag with an empty one, and arguments. -/
structure Found where
  options : List (String × String)
  words : List String

inductive Special where
  | help
  | version
  | misuse

def flag (name : String) (letter : Option Char) : OptionSpec := ⟨name, letter, false, fun _ => true⟩

def setting (name : String) : OptionSpec := ⟨name, none, true, fun _ => true⟩

def pathSetting (name : String) (letter : Option Char) : OptionSpec :=
  ⟨name, letter, true, fun path => path ≠ ""⟩

def helpOption : OptionSpec := flag "help" (some 'h')

def versionOption : OptionSpec := flag "version" (some 'V')

def sharedOptions : List OptionSpec :=
  [flag "verbose" (some 'v'), pathSetting "config" (some 'c'), pathSetting "slots-dir" none]

def slotOption : OptionSpec :=
  ⟨"slot", some 's', true, fun name => (Slot.ofName name).isOk⟩

def Found.value? (found : Found) (name : String) : Option String := found.options.lookup name

def Found.has (found : Found) (name : String) : Bool := (found.value? name).isSome

def Found.note (found : Found) (spec : OptionSpec) (value : String) : Except Special Found :=
  if spec.name = "help" then throw .help
  else if spec.name = "version" then throw .version
  else if found.has spec.name || !spec.accepts value then throw .misuse
  else pure { found with options := found.options ++ [(spec.name, value)] }

def canBeValue (token : String) : Bool :=
  token = "-" || token.toList.head? ≠ some '-'

/-- What a token is, with the options that are complete in it. -/
inductive Token where
  | endOfOptions
  | word
  | flags (noted : List (OptionSpec × String))
  | needsValue (noted : List (OptionSpec × String)) (last : OptionSpec)
  | unknown

def readLetters (specs : List OptionSpec) : List Char → Token
  | [] => .flags []
  | c :: rest =>
    match specs.find? (fun spec => spec.letter = some c) with
    | none => .unknown
    | some spec =>
      if spec.takesValue then
        match rest with
        | [] => .needsValue [] spec
        | '=' :: value => .flags [(spec, String.ofList value)]
        | value => .flags [(spec, String.ofList value)]
      else if spec.name = "help" ∨ spec.name = "version" then .flags [(spec, "")]
      else
        match readLetters specs rest with
        | .flags noted => .flags ((spec, "") :: noted)
        | .needsValue noted last => .needsValue ((spec, "") :: noted) last
        | token => token

def readLong (specs : List OptionSpec) (text : List Char) : Token :=
  let name := String.ofList (text.takeWhile (· ≠ '='))
  let value := text.dropWhile (· ≠ '=')
  match specs.find? (fun spec => spec.name = name), value with
  | none, _ => .unknown
  | some spec, [] => if spec.takesValue then .needsValue [] spec else .flags [(spec, "")]
  | some spec, _ :: value =>
    if spec.takesValue then .flags [(spec, String.ofList value)] else .unknown

def Token.ofText (specs : List OptionSpec) (token : String) : Token :=
  match token.toList with
  | ['-', '-'] => .endOfOptions
  | '-' :: '-' :: rest => readLong specs rest
  | '-' :: c :: rest => readLetters specs (c :: rest)
  | _ => .word

def Found.noteAll (found : Found) (noted : List (OptionSpec × String)) : Except Special Found :=
  noted.foldlM (fun found (spec, value) => found.note spec value) found

inductive WordRule where
  | firstEnds
  | atMost (count : Nat)

/-- Reads options and arguments. The tokens after the end of the reading are given
back. A word too many is noticed before anything behind it. -/
def scan (specs : List OptionSpec) (rule : WordRule) (found : Found) :
    List String → Except Special (Found × List String)
  | [] => pure (found, [])
  | token :: rest => do
    match Token.ofText specs token, rule with
    | .unknown, _ => throw .misuse
    | .endOfOptions, .firstEnds => throw .misuse
    | .endOfOptions, .atMost _ => pure ({ found with words := found.words ++ rest }, [])
    | .word, .firstEnds => pure ({ found with words := found.words ++ [token] }, rest)
    | .word, .atMost count =>
      if found.words.length < count then
        scan specs rule { found with words := found.words ++ [token] } rest
      else throw .misuse
    | .flags noted, _ => scan specs rule (← found.noteAll noted) rest
    | .needsValue noted last, _ =>
      let found ← found.noteAll noted
      match rest with
      | value :: rest =>
        if canBeValue value then scan specs rule (← found.note last value) rest
        else throw .misuse
      | [] => throw .misuse

inductive Subcommand where
  | create (slot : Slot) (force : Bool)
  | showWallet (slot : Slot) (verify raw : Bool)
  | airdrop (slot : Slot) (amount : String) (noWait : Bool)
  | balance (slot : Slot) (address : Option String)
  | send (args : Command.SendArgs)

structure Invocation where
  config : Option String
  slotsDir : Option String
  command : Subcommand

structure CommandSpec where
  options : List OptionSpec
  arguments : Nat

def specOf? (command : String) : Option CommandSpec :=
  if command = "create" then some ⟨[flag "force" none], 0⟩
  else if command = "show" then some ⟨[flag "verify" none, flag "raw" none], 0⟩
  else if command = "airdrop" then some ⟨[flag "no-wait" none], 1⟩
  else if command = "balance" then some ⟨[setting "address"], 0⟩
  else if command = "send" then
    some ⟨[setting "memo", flag "no-memo" none, flag "yes" none, flag "no-wait" none], 2⟩
  else none

def slotOf (found : Found) : Except Special Slot :=
  match Slot.ofName ((found.value? "slot").getD "Str0") with
  | .ok slot => pure slot
  | .error _ => throw .misuse

def Subcommand.ofFound (command : String) (found : Found) : Except Special Subcommand := do
  let slot ← slotOf found
  match command, found.words with
  | "create", [] => pure (.create slot (found.has "force"))
  | "show", [] => pure (.showWallet slot (found.has "verify") (found.has "raw"))
  | "airdrop", [amount] => pure (.airdrop slot amount (found.has "no-wait"))
  | "balance", [] => pure (.balance slot (found.value? "address"))
  | "send", [recipient, amount] =>
    if found.has "memo" && found.has "no-memo" then throw .misuse
    else
      pure (.send {
        slot, recipient, amount
        memo := found.value? "memo"
        noMemo := found.has "no-memo"
        skipConfirm := found.has "yes"
        noWait := found.has "no-wait" })
  | _, _ => throw .misuse

def valueOf? (name : String) (before after : Found) : Option String :=
  (after.value? name).or (before.value? name)

def isHelpTopic : List String → Bool
  | [] => true
  | [name] => name = "help" || (specOf? name).isSome
  | _ => false

def parse (args : List String) : Except Special Invocation := do
  let (before, rest) ← scan (helpOption :: versionOption :: sharedOptions) .firstEnds ⟨[], []⟩ args
  let name := before.words.getLast?.getD ""
  if name = "help" ∧ isHelpTopic rest then throw .help
  match specOf? name with
  | none => throw .misuse
  | some own =>
    let specs := helpOption :: slotOption :: sharedOptions ++ own.options
    let (after, _) ← scan specs (.atMost own.arguments) ⟨[], []⟩ rest
    let command ← Subcommand.ofFound name after
    pure ⟨valueOf? "config" before after, valueOf? "slots-dir" before after, command⟩

end SlotWallet.CommandLine
