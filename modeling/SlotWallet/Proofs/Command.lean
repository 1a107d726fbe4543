import SlotWallet.Command.Airdrop
import SlotWallet.Proofs.HttpNode
import SlotWallet.Proofs.Polling
import SlotWallet.Proofs.Success

/-!
# Runs of a command

The laws by which a command is run on a host, one for each thing that commands do. What
a command may do besides its result is of two kinds: it prints, and it calls the node.
`Host.Follows` keeps both, and a command that does neither is told by the values that
it can give (`Command.Looks`).
-/

namespace SlotWallet

-- ---------------------------------------------------------------------------
-- Hosts
-- ---------------------------------------------------------------------------

namespace Host

def print (host : Host) (text : String) : Host := { host with output := host.output ++ text }

def complain (host : Host) (text : String) : Host :=
  { host with errors := host.errors ++ Command.coloured 31 "Error:" ++ " " ++ text ++ "\n" }

def nextPassword (host : Host) : Host := { host with passwords := host.passwords.tail }

def answer (host : Host) : List Char := host.input.takeWhile (· ≠ '\n')

def nextLine (host : Host) : Host :=
  { host with
    input := (host.input.dropWhile (· ≠ '\n')).drop 1
    linePrompts := host.linePrompts ++ [host.output.length] }

def link (host : Host) (url : String) : HttpLink :=
  ⟨url, HttpLink.defaultMaxHops, host.nextId, host.node⟩

def withLink (host : Host) (link : HttpLink) : Host :=
  { host with nextId := link.nextId, node := link.node }

def unlines (lines : List String) : String :=
  lines.foldr (fun text rest => text ++ "\n" ++ rest) ""

def printLines (host : Host) (lines : List String) : Host :=
  lines.foldl (fun host text => host.print (text ++ "\n")) host

theorem print_print (host : Host) (text text' : String) :
    (host.print text).print text' = host.print (text ++ text') := by
  simp [print, String.append_assoc]

theorem printLines_eq (host : Host) (lines : List String) :
    host.printLines lines = host.print (unlines lines) := by
  induction lines generalizing host with
  | nil => simp [printLines, unlines, print]
  | cons text lines ih =>
    rw [printLines, List.foldl_cons, ← printLines, ih, print_print]
    rfl

theorem link_withLink (host : Host) {link : HttpLink} {url : String} (hurl : link.url = url)
    (hmaxHops : link.maxHops = HttpLink.defaultMaxHops) : (host.withLink link).link url = link := by
  obtain ⟨_, _, nextId, node⟩ := link
  cases hurl
  cases hmaxHops
  rfl

/-- One host follows on another: a text was printed, before any other was, and some
things were done with the node. -/
structure Follows (url : String) (host : Host) (shown : String) (events : List Event)
    (next : Host) : Prop where
  output : ∃ more, next.output = host.output ++ shown ++ more
  link : next.link url = Transport.after (host.link url) events

namespace Follows

variable {url : String} {host next last : Host} {shown later : String} {events after : List Event}

theorem refl (host : Host) : Follows url host "" [] host :=
  ⟨⟨"", by simp⟩, rfl⟩

theorem trans (h : Follows url host shown events next) (h' : Follows url next later after last) :
    Follows url host shown (events ++ after) last := by
  obtain ⟨⟨more, hmore⟩, hlink⟩ := h
  obtain ⟨⟨more', hmore'⟩, hlink'⟩ := h'
  refine ⟨⟨more ++ later ++ more', ?_⟩, ?_⟩
  · rw [hmore', hmore]
    simp only [String.append_assoc]
  · rw [hlink', hlink, Transport.after_after]

theorem quiet (h : Follows url host shown events next) (h' : Follows url next later [] last) :
    Follows url host shown events last := by
  have htrans := h.trans h'
  rwa [List.append_nil] at htrans

theorem hide (h : Follows url host shown events next) : Follows url host "" events next := by
  obtain ⟨⟨more, hmore⟩, hlink⟩ := h
  exact ⟨⟨shown ++ more, by simpa [String.append_assoc] using hmore⟩, hlink⟩

theorem reply_eq {calls : List Call} (h : Follows url host shown (calls.map .asked) next) :
    (next.link url).reply = fun i => (host.link url).reply (calls.length + i) := by
  rw [h.link]
  exact funext fun i => ScriptedTransport.reply_after_calls (host.link url) calls i

/-- The node gets to see all calls, or none where it cannot be reached, and each as posted to the
address. -/
theorem requests_eq (h : Follows url host shown events next) :
    ∃ requests, next.node.requests = host.node.requests ++ requests ∧
      (requests.map (·.call) =
        if (host.link url).isOpen then events.filterMap Event.call? else []) ∧
      ∀ request ∈ requests, (host.link url).Posted request := by
  have hnode : next.node = (Transport.after (host.link url) events).node :=
    congrArg HttpLink.node h.link
  obtain ⟨requests, hrequests, hcalls⟩ := HttpLink.requests_after (host.link url) events
  exact ⟨requests, by rw [hnode, hrequests]; rfl, hcalls⟩

theorem requests (h : Follows url host shown events next) :
    ∃ requests, next.node.requests = host.node.requests ++ requests ∧
      requests.map (·.call) <+: events.filterMap Event.call? := by
  obtain ⟨requests, hrequests, hcalls, -⟩ := h.requests_eq
  refine ⟨requests, hrequests, ?_⟩
  rw [hcalls]
  split
  · exact List.prefix_refl _
  · exact List.nil_prefix

theorem print (host : Host) (text : String) : Follows url host text [] (host.print text) :=
  ⟨⟨"", by simp [Host.print]⟩, rfl⟩

theorem complain (host : Host) (text : String) : Follows url host "" [] (host.complain text) :=
  ⟨⟨"", by simp [Host.complain]⟩, rfl⟩

theorem nextPassword (host : Host) : Follows url host "" [] host.nextPassword :=
  ⟨⟨"", by simp [Host.nextPassword]⟩, rfl⟩

theorem nextLine (host : Host) : Follows url host "" [] host.nextLine :=
  ⟨⟨"", by simp [Host.nextLine]⟩, rfl⟩

theorem withLink (host : Host) (events : List Event) :
    Follows url host "" events (host.withLink (Transport.after (host.link url) events)) := by
  obtain ⟨hurl, hmaxHops⟩ := HttpLink.setup_after (host.link url) events
  exact ⟨⟨"", by simp [Host.withLink]⟩, link_withLink host hurl hmaxHops⟩

end Follows

end Host

namespace Command

variable {α β : Type}

def runFrom (x : Command α) (host : Host) : Except CommandError α × Host := x.run.run host

section

variable {x : Command α} {f : α → Command β} {host next : Host}

theorem runFrom_bind_ok {a : α} (h : runFrom x host = (.ok a, next)) :
    runFrom (x >>= f) host = runFrom (f a) next := by
  have hrun : x.run.run host = (.ok a, next) := h
  rw [runFrom, run_bind, hrun]
  rfl

theorem runFrom_bind_error {e : CommandError} (h : runFrom x host = (.error e, next)) :
    runFrom (x >>= f) host = (.error e, next) := by
  have hrun : x.run.run host = (.error e, next) := h
  rw [runFrom, run_bind, hrun]

end

-- ---------------------------------------------------------------------------
-- One law for each thing that commands do
-- ---------------------------------------------------------------------------

theorem runFrom_pure (a : α) (host : Host) : runFrom (pure a) host = (.ok a, host) := rfl

theorem runFrom_lift (x : Except WalletError α) (host : Host) :
    runFrom (lift x) host = (x.mapError .failed, host) := by
  cases x <;> rfl

theorem runFrom_line (text : String) (host : Host) :
    runFrom (line text) host = (.ok (), host.print (text ++ "\n")) := rfl

theorem runFrom_success (text : String) (host : Host) :
    runFrom (success text) host = (.ok (), host.print (coloured 32 text ++ "\n")) := rfl

theorem runFrom_complain (text : String) (host : Host) :
    runFrom (complain text) host = (.ok (), host.complain text) := rfl

theorem runFrom_askPassword (prompt : String) (host : Host) :
    runFrom (askPassword prompt) host =
      (match host.passwords with
        | password :: _ => .ok password
        | [] => .error .noPassword,
      (host.print prompt).nextPassword) := by
  obtain ⟨random, passwords, input, files, node, nextId, output, errors, linePrompts⟩ := host
  cases passwords <;> rfl

theorem runFrom_confirm (question : String) (host : Host) :
    runFrom (confirm question) host =
      (.ok (isYes host.answer), (host.print (question ++ " [y/N]: ")).nextLine) := rfl

theorem runFrom_onNode (url : String) (action : HttpLink → α × HttpLink) (host : Host) :
    runFrom (onNode url action) host =
      (.ok (action (host.link url)).1, host.withLink (action (host.link url)).2) := rfl

-- ---------------------------------------------------------------------------
-- Commands that only look
-- ---------------------------------------------------------------------------

/-- A command leaves the host as it is and ends with a value exactly if the value is
good. -/
def Looks (x : Command α) (host : Host) (good : α → Prop) : Prop :=
  ∃ result, runFrom x host = (result, host) ∧ ∀ a, result = .ok a ↔ good a

section

variable {x : Command α} {f : α → Command β} {host : Host} {good : α → Prop} {better : β → Prop}

theorem looks_pure {a : α} (h : ∀ b, good b ↔ a = b) : Looks (pure a) host good :=
  ⟨.ok a, rfl, fun b => by rw [h, Except.ok.injEq]⟩

theorem looks_throw (e : CommandError) (h : ∀ a, ¬good a) : Looks (throw e) host good :=
  ⟨.error e, rfl, fun a => ⟨nofun, fun ha => absurd ha (h a)⟩⟩

theorem looks_lift (result : Except WalletError α) :
    Looks (lift result) host fun a => result = .ok a :=
  ⟨_, runFrom_lift result host, fun _ => mapError_ok⟩

theorem Looks.bind (hx : Looks x host good) (hf : ∀ a, good a → Looks (f a) host better)
    (hneeds : ∀ b, better b → ∃ a, good a) : Looks (x >>= f) host better := by
  obtain ⟨result, hrun, hgood⟩ := hx
  cases result with
  | error e =>
    refine ⟨.error e, runFrom_bind_error hrun, fun b => ⟨nofun, fun hb => ?_⟩⟩
    obtain ⟨a, ha⟩ := hneeds b hb
    exact nomatch (hgood a).mpr ha
  | ok a =>
    obtain ⟨result', hrun', hbetter⟩ := hf a ((hgood a).mp rfl)
    exact ⟨result', (runFrom_bind_ok hrun).trans hrun', hbetter⟩

theorem Looks.unique (h : Looks x host good) {a a' : α} (ha : good a) (ha' : good a') :
    a = a' := by
  obtain ⟨result, -, hgood⟩ := h
  exact Except.ok.inj (((hgood a).mpr ha).symm.trans ((hgood a').mpr ha'))

end

theorem slots_looks (config : Config) (host : Host) :
    Looks (slots config) host fun store => ⟨config.slotsDir, host.files⟩ = store :=
  ⟨_, rfl, fun _ => by rw [Except.ok.injEq]⟩

theorem loadWallet_looks (config : Config) (slot : Slot) (host : Host) :
    Looks (loadWallet config slot) host fun key =>
      (SlotDirectory.mk config.slotsDir host.files).holds slot = true ∧
        StoredKey.load (SlotDirectory.mk config.slotsDir host.files) slot = .ok key := by
  refine (slots_looks config host).bind ?_ fun _ _ => ⟨_, rfl⟩
  rintro store rfl
  by_cases hheld : (SlotDirectory.mk config.slotsDir host.files).holds slot = true
  · rw [if_pos hheld]
    cases hload : StoredKey.load (SlotDirectory.mk config.slotsDir host.files) slot with
    | ok key => exact looks_pure fun key' => by rw [and_iff_right hheld, Except.ok.injEq]
    | error e => exact looks_throw _ fun key h => nomatch h.2
  · rw [if_neg hheld]
    exact looks_throw _ fun key h => hheld h.1

-- ---------------------------------------------------------------------------
-- Passwords and waits
-- ---------------------------------------------------------------------------

def Unlocks (config : Config) (passwords : List String) (key : StoredKey) (keys : KeyPair) : Prop :=
  ∃ password rest, passwords = password :: rest ∧
    key.unlock (Text.toBytes password.toList) config.kdfIterations = .ok keys

theorem unlocks_cons {config : Config} {password : String} {rest : List String} {key : StoredKey}
    {keys : KeyPair} :
    Unlocks config (password :: rest) key keys ↔
      key.unlock (Text.toBytes password.toList) config.kdfIterations = .ok keys := by
  constructor
  · rintro ⟨password', rest', hcons, hkeys⟩
    cases hcons
    exact hkeys
  · intro hkeys
    exact ⟨password, rest, rfl, hkeys⟩

theorem Unlocks.unique {config : Config} {passwords : List String} {key : StoredKey}
    {keys keys' : KeyPair} (h : Unlocks config passwords key keys)
    (h' : Unlocks config passwords key keys') : keys = keys' := by
  obtain ⟨password, rest, rfl, hkeys⟩ := h
  exact Except.ok.inj (hkeys.symm.trans (unlocks_cons.mp h'))

theorem unlock_run (config : Config) (key : StoredKey) (host : Host) :
    ∃ result, runFrom (unlock config key) host =
        (result, (host.print "Enter wallet password: ").nextPassword) ∧
      ∀ keys, result = .ok keys ↔ Unlocks config host.passwords key keys := by
  have hask := runFrom_askPassword "Enter wallet password: " host
  cases hpasswords : host.passwords with
  | nil =>
    rw [hpasswords] at hask
    refine ⟨_, runFrom_bind_error hask, fun keys => ⟨nofun, ?_⟩⟩
    rintro ⟨password, rest, hcons, -⟩
    contradiction
  | cons password rest =>
    rw [hpasswords] at hask
    rw [unlock, runFrom_bind_ok hask]
    simp only [unlocks_cons]
    cases key.unlock (Text.toBytes password.toList) config.kdfIterations with
    | error e => exact ⟨_, rfl, fun keys => ⟨nofun, nofun⟩⟩
    | ok opened => exact ⟨_, rfl, fun keys => by rw [Except.ok.injEq, Except.ok.injEq]⟩

theorem reportConfirmation_run (url what signature : String) (state : Confirmation) (host : Host) :
    ∃ result next, runFrom (reportConfirmation what signature state) host = (result, next) ∧
      host.Follows url "" [] next ∧ (result = .ok () ↔ state = .confirmed) := by
  cases state with
  | confirmed =>
    refine ⟨_, _, runFrom_bind_ok (runFrom_success _ host), ?_, fun _ => rfl, fun _ => rfl⟩
    exact (Host.Follows.print host _).hide
  | failed cause =>
    exact ⟨_, _, runFrom_bind_ok (runFrom_complain _ host), .complain host _, nofun, nofun⟩
  | _ => exact ⟨_, _, runFrom_bind_ok (runFrom_complain _ host), .complain host _, nofun, nofun⟩

theorem awaitSignature_run (config : Config) (what signature : String) (poll : PollConfig)
    (host : Host) :
    ∃ result state events next,
      runFrom (awaitSignature config what signature poll) host = (result, next) ∧
      Client.PollEnds signature poll.interval (host.link config.rpcUrl).reply poll.maxAttempts
        state events ∧
      (result = .ok () ↔ state = .confirmed) ∧
      Host.Follows config.rpcUrl host "" events next := by
  obtain ⟨state, events, hends, hpoll⟩ := Client.pollTimes_ends signature poll.interval
    poll.maxAttempts (host.link config.rpcUrl)
  obtain ⟨result, next, hreport, hfollows, hresult⟩ := reportConfirmation_run config.rpcUrl what
    signature state (host.withLink (Transport.after (host.link config.rpcUrl) events))
  refine ⟨result, state, events, next, ?_, hends, hresult, ?_⟩
  · rw [awaitSignature, runFrom_bind_ok (runFrom_onNode _ _ _), Client.waitForConfirmation, hpoll]
    exact hreport
  · exact (Host.Follows.withLink host events).quiet hfollows

end Command

end SlotWallet
