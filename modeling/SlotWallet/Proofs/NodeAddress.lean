import SlotWallet.Program
import SlotWallet.Proofs.Sending

/-!
# The address that a command calls

Whatever a command does with the node, it does at the address of the configuration, and so does
what it is put together from (`CallsAt`).
-/

namespace SlotWallet.Command

variable {α β : Type} {url : String}

/-- What a command does with the node where it runs on a host, it does at an address. -/
def CallsFrom (url : String) (x : Command α) (host : Host) : Prop :=
  ∃ events, host.Follows url "" events (runFrom x host).2

def CallsAt (url : String) (x : Command α) : Prop := ∀ host, CallsFrom url x host

theorem CallsFrom.of_run {x : Command α} {host next : Host} {result : Except CommandError α}
    {events : List Event} (hrun : runFrom x host = (result, next))
    (h : host.Follows url "" events next) : CallsFrom url x host := by
  rw [CallsFrom, hrun]
  exact ⟨events, h⟩

-- ---------------------------------------------------------------------------
-- One law for each thing that commands do
-- ---------------------------------------------------------------------------

theorem callsAt_pure (a : α) : CallsAt url (pure a) := fun host => ⟨[], .refl host⟩

theorem callsAt_throw (e : CommandError) : CallsAt url (throw e : Command α) :=
  fun host => ⟨[], .refl host⟩

theorem callsAt_lift (x : Except WalletError α) : CallsAt url (lift x) :=
  fun host => .of_run (runFrom_lift x host) (.refl host)

theorem callsAt_line (text : String) : CallsAt url (line text) :=
  fun host => .of_run (runFrom_line text host) (Host.Follows.print host _).hide

theorem callsAt_success (text : String) : CallsAt url (success text) := callsAt_line _

theorem callsAt_warning (text : String) : CallsAt url (warning text) := callsAt_line _

theorem callsAt_complain (text : String) : CallsAt url (complain text) :=
  fun host => .of_run (runFrom_complain text host) (.complain host text)

theorem callsAt_askPassword (prompt : String) : CallsAt url (askPassword prompt) := by
  intro host
  have hasked : host.Follows url "" [] (host.print prompt).nextPassword :=
    ((Host.Follows.print host prompt).quiet (.nextPassword _)).hide
  exact .of_run (runFrom_askPassword prompt host) hasked

theorem callsAt_confirm (question : String) : CallsAt url (confirm question) := by
  intro host
  have hasked : host.Follows url "" [] (host.print (question ++ " [y/N]: ")).nextLine :=
    ((Host.Follows.print host _).quiet (.nextLine _)).hide
  exact .of_run (runFrom_confirm question host) hasked

theorem callsAt_of_looks {x : Command α} {good : Host → α → Prop}
    (h : ∀ host, Looks x host (good host)) : CallsAt url x := by
  intro host
  obtain ⟨result, hrun, -⟩ := h host
  exact .of_run hrun (.refl host)

theorem callsFrom_setFiles (files : FileTree) (host : Host) :
    CallsFrom url (set { host with files }) host :=
  ⟨[], ⟨"", by simp only [String.append_empty]; rfl⟩, rfl⟩

theorem callsAt_onNode {action : HttpLink → α × HttpLink}
    (h : ∀ link, ∃ events, (action link).2 = Transport.after link events) :
    CallsAt url (onNode url action) := by
  intro host
  obtain ⟨events, hevents⟩ := h (host.link url)
  have hrun := runFrom_onNode url action host
  rw [hevents] at hrun
  exact .of_run hrun (.withLink host events)

section

variable {x y : Command α} {f : α → Command β}

theorem CallsFrom.bind {host : Host} (hx : CallsFrom url x host)
    (hf : ∀ a next, runFrom x host = (.ok a, next) → CallsFrom url (f a) next) :
    CallsFrom url (x >>= f) host := by
  obtain ⟨events, hfollows⟩ := hx
  rcases hrun : runFrom x host with ⟨_ | a, next⟩
  · rw [hrun] at hfollows
    exact .of_run (runFrom_bind_error hrun) hfollows
  · rw [hrun] at hfollows
    obtain ⟨events', hfollows'⟩ := hf a next hrun
    exact .of_run (runFrom_bind_ok hrun) (hfollows.trans hfollows')

theorem CallsAt.bind (hx : CallsAt url x) (hf : ∀ a, CallsAt url (f a)) :
    CallsAt url (x >>= f) :=
  fun host => (hx host).bind fun a next _ => hf a next

theorem CallsAt.afterLine {text : String} (hx : CallsAt url x) :
    CallsAt url (do line text; x) :=
  (callsAt_line text).bind fun _ => hx

theorem CallsAt.ite {c : Prop} [Decidable c] (hx : CallsAt url x) (hy : CallsAt url y) :
    CallsAt url (if c then x else y) := by
  split
  · exact hx
  · exact hy

end

-- ---------------------------------------------------------------------------
-- What commands are put together from
-- ---------------------------------------------------------------------------

theorem loadWallet_callsAt (config : Config) (slot : Slot) : CallsAt url (loadWallet config slot) :=
  callsAt_of_looks (loadWallet_looks config slot)

theorem unlock_callsAt (config : Config) (key : StoredKey) : CallsAt url (unlock config key) := by
  refine (callsAt_askPassword _).bind ?_
  intro password
  cases key.unlock (Text.toBytes password.toList) config.kdfIterations with
  | ok keys => exact callsAt_pure keys
  | error e => exact callsAt_throw _

theorem awaitSignature_callsAt (config : Config) (what signature : String) (poll : PollConfig) :
    CallsAt config.rpcUrl (awaitSignature config what signature poll) := by
  intro host
  obtain ⟨result, state, events, next, hrun, -, -, hfollows⟩ :=
    awaitSignature_run config what signature poll host
  exact .of_run hrun hfollows

theorem method_callsAt (call : Call) (read : Json → Except WalletError α) :
    CallsAt url (onNode url (do Client.lift (read (← Client.ask call)) : Client HttpLink α)) :=
  callsAt_onNode fun link =>
    ⟨[.asked call], congrArg Prod.snd (ScriptedTransport.runFrom_method call read link)⟩

theorem newPasswordWithin_callsAt (tries : Nat) : CallsAt url (newPasswordWithin tries) := by
  induction tries with
  | zero => exact callsAt_throw _
  | succ tries ih =>
    refine (callsAt_askPassword _).bind fun first => .ite ?_ ?_
    · exact (callsAt_complain _).bind fun _ => ih
    · refine (callsAt_askPassword _).bind fun second => .ite (callsAt_pure _) ?_
      exact (callsAt_complain _).bind fun _ => ih

theorem newPassword_callsAt : CallsAt url newPassword :=
  fun host => newPasswordWithin_callsAt (host.passwords.length + 1) host

-- ---------------------------------------------------------------------------
-- Commands
-- ---------------------------------------------------------------------------

theorem mayReplace_callsAt (store : SlotDirectory) (slot : Slot) :
    CallsAt url (mayReplace store slot) := by
  refine (callsAt_complain _).bind fun _ => .afterLine ?_
  refine (callsAt_confirm _).bind fun agreed => .ite ?_ ?_
  · exact (callsAt_warning _).bind fun _ => callsAt_pure true
  · exact (callsAt_pure false).afterLine

theorem airdrop_callsAt (config : Config) (slot : Slot) (amount : String) (noWait : Bool) :
    CallsAt config.rpcUrl (airdrop config slot amount noWait) := by
  refine (loadWallet_callsAt config slot).bind fun key => (callsAt_lift _).bind fun lamports =>
    .afterLine (.afterLine ?_)
  refine (method_callsAt _ _).bind fun answer => (callsAt_lift answer).bind fun signature =>
    .afterLine (.afterLine (.afterLine ?_))
  refine .ite ?_ (callsAt_pure ())
  exact (awaitSignature_callsAt config "Airdrop" signature config.airdropPoll).afterLine.afterLine

theorem balanceOwner_callsAt (config : Config) (slot : Slot) (address : Option String) :
    CallsAt url (balanceOwner config slot address) := by
  cases address with
  | some address =>
    simp only [balanceOwner]
    cases Base58.decodeFixed 32 address with
    | ok key => exact callsAt_pure key
    | error fault => exact callsAt_throw _
  | none =>
    exact (loadWallet_callsAt config slot).bind fun key => (callsAt_pure key.publicKey).afterLine

theorem balance_callsAt (config : Config) (slot : Slot) (address : Option String) :
    CallsAt config.rpcUrl (balance config slot address) := by
  refine (balanceOwner_callsAt config slot address).bind fun owner => .afterLine ?_
  refine (method_callsAt _ _).bind fun answer => (callsAt_lift answer).bind fun lamports => ?_
  exact (callsAt_success _).afterLine

theorem showWallet_callsAt (config : Config) (slot : Slot) (verify raw : Bool) :
    CallsAt url (showWallet config slot verify raw) := by
  refine (loadWallet_callsAt config slot).bind fun key => .afterLine (.afterLine ?_)
  have hverify : CallsAt url (do
      if verify then
        line ""
        let keys ← unlock config key
        if keys.publicKey = key.publicKey then
          success "Password verified; the key matches the stored public key."
        else
          warning "The decrypted key does not match the stored public key."
          line ("  Derived public key: " ++ keys.address)) := by
    refine .ite ?_ (callsAt_pure ())
    refine .afterLine ((unlock_callsAt config key).bind fun keys => .ite ?_ ?_)
    · exact callsAt_success _
    · exact (callsAt_warning _).bind fun _ => callsAt_line _
  -- with the sealed seed or without it, the check of the password comes next
  refine .ite ?_ ?_
  · exact hverify.afterLine
  · exact hverify

theorem send_callsAt (config : Config) (args : SendArgs) :
    CallsAt config.rpcUrl (send config args) := by
  intro host
  obtain ⟨result, shown, events, next, hrun, hfollows, -⟩ := send_ends config args host
  exact .of_run hrun hfollows.hide

theorem generateUnder_callsAt (config : Config) (slot : Slot) (password : String) :
    CallsAt url (generateUnder config slot password) := by
  refine .afterLine (.afterLine ((callsAt_of_looks (slots_looks config)).bind fun store host => ?_))
  refine CallsFrom.bind ⟨[], .refl host⟩ ?_
  rintro _ _ ⟨⟩
  rcases Wallet.create store slot (Text.toBytes password.toList) config.kdfIterations host.random
    with ⟨made, written⟩
  refine CallsFrom.bind (callsFrom_setFiles written.files host) fun _ next _ =>
    CallsAt.bind (callsAt_lift made) (fun key => ?_) next
  refine .afterLine ((callsAt_success _).bind fun _ => ?_)
  exact (callsAt_warning _).afterLine.afterLine.afterLine.afterLine.afterLine.afterLine

theorem generate_callsAt (config : Config) (slot : Slot) : CallsAt url (generate config slot) :=
  newPassword_callsAt.bind fun password => generateUnder_callsAt config slot password

theorem create_callsAt (config : Config) (slot : Slot) (force : Bool) :
    CallsAt url (create config slot force) := by
  refine (callsAt_of_looks (slots_looks config)).bind fun store => .ite ?_ ?_
  · refine (mayReplace_callsAt store slot).bind fun agreed => .ite ?_ (callsAt_pure ())
    exact generate_callsAt config slot
  · exact generate_callsAt config slot

theorem dispatch_callsAt (config : Config) (command : CommandLine.Subcommand) :
    CallsAt config.rpcUrl (Program.dispatch config command) := by
  cases command with
  | create slot force => exact create_callsAt config slot force
  | showWallet slot verify raw => exact showWallet_callsAt config slot verify raw
  | airdrop slot amount noWait => exact airdrop_callsAt config slot amount noWait
  | balance slot address => exact balance_callsAt config slot address
  | send args => exact send_callsAt config args

end SlotWallet.Command
