import SlotWallet.Proofs.Details
import SlotWallet.Proofs.Submission

/-!
# Transfers are sent as agreed

A transfer is planned, shown, agreed to and unlocked before the node is called. All ends
of a run are listed (`SendEnds`, `SubmitEnds`), each with its result, with what it has
shown first and with what it has done with the node; what holds of every run is read off
that list.
-/

namespace SlotWallet.Command

open Client (latestBlockhashCall PollEnds)
open Wallet (outcome submissionCalls Submits)

-- ---------------------------------------------------------------------------
-- Plans
-- ---------------------------------------------------------------------------

/-- The memo that a transfer is asked for with: none at all, or the one of a text. -/
inductive MemoChosen (config : Config) (args : SendArgs) : Option Memo → Prop
  | without : args.noMemo = true ∨ args.memo.getD config.defaultMemo = "" →
      MemoChosen config args none
  | ofText {memo : Memo} : args.noMemo = false → args.memo.getD config.defaultMemo ≠ "" →
      Memo.ofText (args.memo.getD config.defaultMemo) = .ok memo →
      MemoChosen config args (some memo)

/-- All that was asked for is good: the slot holds a wallet that can be read, the amount,
the recipient and the memo are valid, and the recipient is another. -/
structure Planned (config : Config) (args : SendArgs) (files : FileTree) (p : Plan) : Prop where
  held : (SlotDirectory.mk config.slotsDir files).holds args.slot = true
  readable : StoredKey.load (SlotDirectory.mk config.slotsDir files) args.slot = .ok p.key
  amount : Amount.parse args.amount = .ok p.lamports
  recipient : Base58.decodeFixed 32 args.recipient = .ok p.recipient
  memo : MemoChosen config args p.memo
  other : p.recipient ≠ p.key.publicKey

variable {config : Config} {args : SendArgs} {host : Host} {p : Plan}

theorem memoChosen_of_without {memo : Option Memo}
    (h : args.noMemo = true ∨ args.memo.getD config.defaultMemo = "") :
    MemoChosen config args memo ↔ none = memo := by
  constructor
  · rintro (_ | ⟨hsome, htext, -⟩)
    · rfl
    · exact absurd h (by simp [hsome, htext])
  · rintro rfl
    exact .without h

theorem memoChosen_of_text {memo : Option Memo} (hsome : ¬args.noMemo = true)
    (htext : ¬args.memo.getD config.defaultMemo = "") :
    MemoChosen config args memo ↔
      ∃ m, Memo.ofText (args.memo.getD config.defaultMemo) = .ok m ∧ some m = memo := by
  constructor
  · rintro (hwithout | ⟨-, -, hm⟩)
    · exact (hwithout.elim hsome htext).elim
    · exact ⟨_, hm, rfl⟩
  · rintro ⟨m, hm, rfl⟩
    exact .ofText (Bool.eq_false_of_not_eq_true hsome) htext hm

theorem resolveMemo_looks (config : Config) (args : SendArgs) (host : Host) :
    Looks (resolveMemo config args) host (MemoChosen config args) := by
  unfold resolveMemo
  by_cases hnone : args.noMemo = true
  · rw [if_pos hnone]
    exact looks_pure fun memo => memoChosen_of_without (.inl hnone)
  rw [if_neg hnone]
  dsimp only
  by_cases hempty : args.memo.getD config.defaultMemo = ""
  · rw [if_pos hempty]
    exact looks_pure fun memo => memoChosen_of_without (.inr hempty)
  rw [if_neg hempty]
  cases hmemo : Memo.ofText (args.memo.getD config.defaultMemo) with
  | error fault =>
    refine looks_throw _ fun memo hchosen => ?_
    obtain ⟨m, hm, -⟩ := (memoChosen_of_text hnone hempty).mp hchosen
    exact nomatch hmemo.symm.trans hm
  | ok m =>
    refine looks_pure fun memo => ?_
    rw [memoChosen_of_text hnone hempty, hmemo]
    simp only [Except.ok.injEq, exists_eq_left']

theorem plan_looks (config : Config) (args : SendArgs) (host : Host) :
    Looks (plan config args) host (Planned config args host.files) := by
  refine (loadWallet_looks config args.slot host).bind ?_
    fun p hp => ⟨p.key, hp.held, hp.readable⟩
  rintro key ⟨hheld, hreadable⟩
  refine (looks_lift _).bind ?_ fun p hp => ⟨p.lamports, mapError_ok.mpr hp.amount⟩
  intro lamports hamount
  cases hrecipient : Base58.decodeFixed 32 args.recipient with
  | error fault =>
    exact looks_throw _ fun p hp => nomatch hrecipient.symm.trans hp.recipient
  | ok recipient =>
    refine (resolveMemo_looks config args host).bind ?_ fun p hp => ⟨p.memo, hp.memo⟩
    intro memo hmemo
    have hplanned : ∀ p, Planned config args host.files p →
        Plan.mk key lamports recipient memo = p := by
      intro p hp
      obtain ⟨-, hkey, hamount', hrecipient', hmemo', -⟩ := hp
      cases hreadable.symm.trans hkey
      cases (mapError_ok.mp hamount).symm.trans hamount'
      cases hrecipient.symm.trans hrecipient'
      cases (resolveMemo_looks config args host).unique hmemo hmemo'
      rfl
    by_cases hown : recipient = key.publicKey
    · rw [if_pos hown]
      refine looks_throw _ fun p hp => ?_
      cases hplanned p hp
      exact hp.other hown
    · rw [if_neg hown]
      refine looks_pure fun p => ⟨hplanned p, ?_⟩
      rintro rfl
      exact ⟨hheld, hreadable, mapError_ok.mp hamount, hrecipient, hmemo, hown⟩

-- ---------------------------------------------------------------------------
-- The ends of a run
-- ---------------------------------------------------------------------------

def Agreed (args : SendArgs) (answer : List Char) : Prop :=
  args.skipConfirm = true ∨ isYes answer = true

def transferCalls (keys : KeyPair) (p : Plan) (first : Except WalletError Json) : List Call :=
  latestBlockhashCall :: submissionCalls keys p.recipient p.lamports p.memo first

/-- How it ends to submit a plan: by the passwords that are given and the answers of the
node, with a result and with what has been done with the node. -/
inductive SubmitEnds (config : Config) (args : SendArgs) (p : Plan) (passwords : List String)
    (reply : Nat → Except WalletError Json) : Except CommandError Unit → List Event → Prop
  | locked {error : CommandError} :
      (∀ keys, ¬Unlocks config passwords p.key keys) →
      SubmitEnds config args p passwords reply (.error error) []
  | failed {keys : KeyPair} {cause : WalletError} :
      Unlocks config passwords p.key keys →
      outcome keys p.recipient p.lamports p.memo (reply 0) (reply 1) = .error cause →
      SubmitEnds config args p passwords reply (.error (.failed cause))
        ((transferCalls keys p (reply 0)).map .asked)
  | submitted {keys : KeyPair} {signature : String} :
      Unlocks config passwords p.key keys →
      outcome keys p.recipient p.lamports p.memo (reply 0) (reply 1) = .ok signature →
      args.noWait = true →
      SubmitEnds config args p passwords reply (.ok ())
        ((transferCalls keys p (reply 0)).map .asked)
  | awaited {keys : KeyPair} {signature : String} {result : Except CommandError Unit}
      {state : Confirmation} {events : List Event} :
      Unlocks config passwords p.key keys →
      outcome keys p.recipient p.lamports p.memo (reply 0) (reply 1) = .ok signature →
      args.noWait = false →
      PollEnds signature config.transferPoll.interval (fun i => reply (2 + i))
        config.transferPoll.maxAttempts state events →
      (result = .ok () ↔ state = .confirmed) →
      SubmitEnds config args p passwords reply result
        ((transferCalls keys p (reply 0)).map .asked ++ events)

/-- How a run ends, with a result, with what has been shown first and with what has been
done with the node. -/
inductive SendEnds (config : Config) (args : SendArgs) (host : Host) :
    Except CommandError Unit → String → List Event → Prop
  | refused {error : CommandError} :
      (∀ p, ¬Planned config args host.files p) →
      SendEnds config args host (.error error) "" []
  | declined {p : Plan} :
      Planned config args host.files p → ¬Agreed args host.answer →
      SendEnds config args host (.ok ()) (details args.slot p) []
  | agreed {p : Plan} {result : Except CommandError Unit} {events : List Event} :
      Planned config args host.files p → Agreed args host.answer →
      SubmitEnds config args p host.passwords (host.link config.rpcUrl).reply result events →
      SendEnds config args host result (details args.slot p) events

theorem length_transferCalls {keys : KeyPair} {first second : Except WalletError Json}
    {signature : String}
    (h : outcome keys p.recipient p.lamports p.memo first second = .ok signature) :
    (transferCalls keys p first).length = 2 := by
  obtain ⟨hne, -, -⟩ := Wallet.outcome_ok.mp h
  have hpos := List.length_pos_iff.mpr hne
  have hle : (submissionCalls keys p.recipient p.lamports p.memo first).length ≤ 1 :=
    Wallet.length_submissionCalls_le
  rw [transferCalls, List.length_cons]
  omega

theorem sendTransfer_follows {url shown : String} {asked : Host} (keys : KeyPair) (p : Plan)
    (h : host.Follows url shown [] asked) :
    ∃ called,
      runFrom (onNode url (Wallet.sendTransfer keys p.recipient p.lamports p.memo)) asked =
        (.ok (outcome keys p.recipient p.lamports p.memo ((host.link url).reply 0)
          ((host.link url).reply 1)), called) ∧
      host.Follows url shown ((transferCalls keys p ((host.link url).reply 0)).map .asked)
        called := by
  have hlink : asked.link url = host.link url := h.link
  have hrun : Wallet.sendTransfer keys p.recipient p.lamports p.memo (asked.link url) = _ :=
    Wallet.runFrom_sendTransfer keys p.recipient p.lamports p.memo (asked.link url)
  rw [hlink] at hrun
  refine ⟨_, ?_, h.trans (.withLink asked _)⟩
  rw [runFrom_onNode, hlink, hrun]
  rfl

theorem wait_ends {told : Host} {keys : KeyPair} {signature : String}
    (hkeys : Unlocks config host.passwords p.key keys)
    (houtcome : outcome keys p.recipient p.lamports p.memo ((host.link config.rpcUrl).reply 0)
      ((host.link config.rpcUrl).reply 1) = .ok signature)
    (hfollows : host.Follows config.rpcUrl ""
      ((transferCalls keys p ((host.link config.rpcUrl).reply 0)).map .asked) told) :
    ∃ result events next,
      runFrom (if (!args.noWait) = true then do
          line ""
          line "Waiting for transfer confirmation..."
          awaitSignature config "Transfer" signature config.transferPoll
        else pure ()) told = (result, next) ∧
      host.Follows config.rpcUrl "" events next ∧
      SubmitEnds config args p host.passwords (host.link config.rpcUrl).reply result events := by
  cases hwait : args.noWait with
  | true => exact ⟨_, _, _, rfl, hfollows, .submitted hkeys houtcome hwait⟩
  | false =>
    rw [if_pos Bool.not_false, runFrom_bind_ok (runFrom_line _ _),
      runFrom_bind_ok (runFrom_line _ _)]
    -- what has been printed does not matter to the queries, only how many answers are used up
    generalize hwaiting : (told.print _).print _ = waiting
    have hfollows : host.Follows config.rpcUrl "" _ waiting :=
      hwaiting ▸ (hfollows.quiet (.print _ _)).quiet (.print _ _)
    obtain ⟨result, state, events, next, hrun, hends, hresult, hlast⟩ :=
      awaitSignature_run config "Transfer" signature config.transferPoll waiting
    rw [hfollows.reply_eq, length_transferCalls houtcome] at hends
    exact ⟨result, _, next, hrun, hfollows.trans hlast, .awaited hkeys houtcome hwait hends hresult⟩

theorem submit_ends (config : Config) (args : SendArgs) (p : Plan) (host : Host) :
    ∃ result events next, runFrom (submit config args p) host = (result, next) ∧
      host.Follows config.rpcUrl "" events next ∧
      SubmitEnds config args p host.passwords (host.link config.rpcUrl).reply result events := by
  obtain ⟨opened, hunlock, hopened⟩ := unlock_run config p.key host
  have hasked : host.Follows config.rpcUrl "" []
      (host.print "Enter wallet password: ").nextPassword :=
    ((Host.Follows.print host _).quiet (.nextPassword _)).hide
  cases opened with
  | error error =>
    refine ⟨_, _, _, runFrom_bind_error hunlock, hasked, .locked fun keys hkeys => ?_⟩
    exact nomatch (hopened keys).mpr hkeys
  | ok keys =>
    have hkeys : Unlocks config host.passwords p.key keys := (hopened keys).mp rfl
    rw [submit, runFrom_bind_ok hunlock]
    obtain ⟨called, hsend, hcalled⟩ := sendTransfer_follows keys p hasked
    rw [runFrom_bind_ok hsend]
    have hlift := runFrom_lift (outcome keys p.recipient p.lamports p.memo
      ((host.link config.rpcUrl).reply 0) ((host.link config.rpcUrl).reply 1)) called
    cases houtcome : outcome keys p.recipient p.lamports p.memo
        ((host.link config.rpcUrl).reply 0) ((host.link config.rpcUrl).reply 1) with
    | error cause =>
      rw [houtcome] at hlift
      exact ⟨_, _, _, runFrom_bind_error hlift, hcalled, .failed hkeys houtcome⟩
    | ok signature =>
      rw [houtcome] at hlift
      rw [runFrom_bind_ok hlift, runFrom_bind_ok (runFrom_line _ _),
        runFrom_bind_ok (runFrom_success _ _), runFrom_bind_ok (runFrom_line _ _)]
      exact wait_ends hkeys houtcome
        (((hcalled.quiet (.print _ _)).quiet (.print _ _)).quiet (.print _ _))

theorem decision_ends {asked : Host} {agreed : Bool} (hp : Planned config args host.files p)
    (hfollows : host.Follows config.rpcUrl (details args.slot p) [] asked)
    (hpasswords : asked.passwords = host.passwords)
    (hagreed : agreed = true ↔ Agreed args host.answer) :
    ∃ result shown events next,
      runFrom (if agreed = true then submit config args p else line "Aborted.") asked =
        (result, next) ∧
      host.Follows config.rpcUrl shown events next ∧
      SendEnds config args host result shown events := by
  cases agreed with
  | true =>
    obtain ⟨result, events, next, hrun, hnext, hends⟩ := submit_ends config args p asked
    rw [hpasswords, show asked.link config.rpcUrl = host.link config.rpcUrl from hfollows.link]
      at hends
    exact ⟨_, _, _, _, hrun, hfollows.trans hnext, .agreed hp (hagreed.mp rfl) hends⟩
  | false =>
    refine ⟨_, _, _, _, rfl, hfollows.quiet (.print asked _), .declined hp fun hyes => ?_⟩
    exact nomatch hagreed.mpr hyes

theorem send_ends (config : Config) (args : SendArgs) (host : Host) :
    ∃ result shown events next, runFrom (send config args) host = (result, next) ∧
      host.Follows config.rpcUrl shown events next ∧
      SendEnds config args host result shown events := by
  obtain ⟨planned, hplan, hplanned⟩ := plan_looks config args host
  cases planned with
  | error error =>
    refine ⟨_, _, _, _, runFrom_bind_error hplan, .refl host, .refused fun p hp => ?_⟩
    exact nomatch (hplanned p).mpr hp
  | ok p =>
    have hp : Planned config args host.files p := (hplanned p).mp rfl
    have hshown : host.Follows config.rpcUrl (details args.slot p) [] _ := .print host _
    rw [send, runFrom_bind_ok hplan, runFrom_bind_ok (showPlan_run args.slot p host)]
    by_cases hskip : args.skipConfirm = true
    · rw [if_pos hskip, runFrom_bind_ok (runFrom_pure true _)]
      exact decision_ends hp hshown rfl ⟨fun _ => .inl hskip, fun _ => rfl⟩
    · rw [if_neg hskip, runFrom_bind_ok (runFrom_confirm _ _)]
      exact decision_ends hp ((hshown.quiet (.print _ _)).quiet (.nextLine _)) rfl
        ⟨.inr, fun h => h.resolve_left hskip⟩

-- ---------------------------------------------------------------------------
-- What the node is asked
-- ---------------------------------------------------------------------------

def queries (config : Config) (args : SendArgs) : Nat :=
  if args.noWait then 0 else config.transferPoll.maxAttempts

/-- All that allows calls, and the calls: those that submit the plan, and behind a
submission the queries about it. -/
structure Delivers (config : Config) (args : SendArgs) (host : Host) (p : Plan) (keys : KeyPair)
    (calls : List Call) : Prop where
  planned : Planned config args host.files p
  agreed : Agreed args host.answer
  unlocked : Unlocks config host.passwords p.key keys
  calls_eq : ∃ signature count, count ≤ queries config args ∧
    (count ≠ 0 → (transferCalls keys p ((host.link config.rpcUrl).reply 0)).length = 2) ∧
    calls = transferCalls keys p ((host.link config.rpcUrl).reply 0) ++
      List.replicate count (Client.statusCall signature)

theorem Delivers.unawaited {keys : KeyPair} (hp : Planned config args host.files p)
    (hagreed : Agreed args host.answer) (hkeys : Unlocks config host.passwords p.key keys) :
    Delivers config args host p keys
      (((transferCalls keys p ((host.link config.rpcUrl).reply 0)).map Event.asked).filterMap
        Event.call?) := by
  refine ⟨hp, hagreed, hkeys, "", 0, Nat.zero_le _, fun hne => absurd rfl hne, ?_⟩
  rw [Event.filterMap_asked, List.replicate_zero, List.append_nil]

theorem SendEnds.delivers {result : Except CommandError Unit} {shown : String}
    {events : List Event} (h : SendEnds config args host result shown events) :
    events = [] ∨ ∃ p keys, shown = details args.slot p ∧
      Delivers config args host p keys (events.filterMap Event.call?) := by
  cases h with
  | refused _ => exact .inl rfl
  | declined _ _ => exact .inl rfl
  | @agreed p _ _ hp hagreed hends =>
    cases hends with
    | locked _ => exact .inl rfl
    | failed hkeys _ => exact .inr ⟨p, _, rfl, .unawaited hp hagreed hkeys⟩
    | submitted hkeys _ _ => exact .inr ⟨p, _, rfl, .unawaited hp hagreed hkeys⟩
    | @awaited keys signature _ _ events hkeys houtcome hwait hpoll _ =>
      obtain ⟨count, hcount, hcalls⟩ := hpoll.calls
      refine .inr ⟨p, keys, rfl, hp, hagreed, hkeys, signature, count, ?_,
        fun _ => length_transferCalls houtcome, ?_⟩
      · rw [queries, hwait, if_neg Bool.false_ne_true]
        exact hcount
      · rw [List.filterMap_append, Event.filterMap_asked, hcalls]

theorem methods_transferCalls (keys : KeyPair) (p : Plan) (first : Except WalletError Json) :
    (transferCalls keys p first).map (·.method) <+: ["getLatestBlockhash", "sendTransaction"] := by
  unfold transferCalls submissionCalls
  split
  · exact List.prefix_refl _
  · exact List.prefix_append ["getLatestBlockhash"] ["sendTransaction"]

theorem Delivers.methods {keys : KeyPair} {calls : List Call}
    (h : Delivers config args host p keys calls) :
    calls.map (·.method) <+: "getLatestBlockhash" :: "sendTransaction" ::
      List.replicate (queries config args) "getSignatureStatuses" := by
  obtain ⟨-, -, -, signature, count, hcount, hlength, rfl⟩ := h
  have htransfer := methods_transferCalls keys p ((host.link config.rpcUrl).reply 0)
  rw [List.map_append, List.map_replicate]
  by_cases hnone : count = 0
  · rw [hnone, List.replicate_zero, List.append_nil]
    exact htransfer.trans (List.prefix_append _ _)
  · have hwhole := htransfer.eq_of_length (by rw [List.length_map, hlength hnone]; rfl)
    rw [hwhole]
    refine (List.prefix_append_right_inj ["getLatestBlockhash", "sendTransaction"]).mpr ?_
    refine ⟨List.replicate (queries config args - count) "getSignatureStatuses", ?_⟩
    have hmethod : (Client.statusCall signature).method = "getSignatureStatuses" := rfl
    rw [hmethod, List.replicate_append_replicate, Nat.add_sub_cancel' hcount]

theorem SendEnds.methods {result : Except CommandError Unit} {shown : String}
    {events : List Event} (h : SendEnds config args host result shown events) :
    (events.filterMap Event.call?).map (·.method) <+: "getLatestBlockhash" :: "sendTransaction" ::
      List.replicate (queries config args) "getSignatureStatuses" := by
  obtain rfl | ⟨p, keys, -, hdelivers⟩ := h.delivers
  · exact List.nil_prefix
  · exact hdelivers.methods

theorem count_methods_le {methods : List String} {attempts : Nat}
    (h : methods <+: "getLatestBlockhash" :: "sendTransaction" ::
      List.replicate attempts "getSignatureStatuses") :
    methods.count "sendTransaction" ≤ 1 :=
  calc methods.count "sendTransaction"
      ≤ _ := h.sublist.count_le "sendTransaction"
    _ = 1 := by simp [List.count_replicate]

theorem Delivers.submits {keys : KeyPair} {calls : List Call} {call : Call}
    (h : Delivers config args host p keys calls) (hcall : call ∈ calls)
    (hmethod : call.method = "sendTransaction") :
    ∃ compiled, Submits keys p.recipient p.lamports p.memo ((host.link config.rpcUrl).reply 0)
        compiled ∧
      call = Client.sendCall (Base64.encode
        (SignedTransfer.framed ⟨keys.sign compiled.bytes, compiled⟩)) := by
  obtain ⟨-, -, -, status, count, -, -, rfl⟩ := h
  rw [transferCalls, List.cons_append, List.mem_cons, List.mem_append] at hcall
  obtain rfl | hsubmission | hstatus := hcall
  · have hother : "getLatestBlockhash" ≠ "sendTransaction" := by decide
    exact absurd hmethod hother
  · exact Wallet.mem_submissionCalls.mp hsubmission
  · obtain ⟨-, rfl⟩ := List.mem_replicate.mp hstatus
    have hother : "getSignatureStatuses" ≠ "sendTransaction" := by decide
    exact absurd hmethod hother

theorem Delivers.pays {keys : KeyPair} {calls : List Call} {call : Call}
    (h : Delivers config args host p keys calls) (hcall : call ∈ calls)
    (hmethod : call.method = "sendTransaction") :
    ∃ (signature : Signature) (bytes : Bytes) (message : Message),
      call.params = .array [.string (Base64.encode (CompactLength.encode 1 ++ signature.bytes ++
        bytes)), .object [("encoding", .string "base64")]] ∧
      Message.read bytes = some message ∧
      message.orders? = some (.pay keys.publicKey p.recipient p.lamports.toNat ::
        (p.memo.map fun memo => Order.note memo.bytes).toList) := by
  obtain ⟨compiled, ⟨result, hash, -, -, hcompile⟩, rfl⟩ := h.submits hcall hmethod
  exact ⟨keys.sign compiled.bytes, compiled.bytes, _, rfl,
    TransferRequest.read_bytes_compile hcompile, TransferRequest.orders?_message _ _⟩

-- ---------------------------------------------------------------------------
-- What a run reports
-- ---------------------------------------------------------------------------

/-- A node takes a transfer: it offers a blockhash over which there is a message, and
answers the submission with a signature. -/
def Accepts (keys : KeyPair) (p : Plan) (reply : Nat → Except WalletError Json)
    (signature : String) : Prop :=
  (∃ compiled, Submits keys p.recipient p.lamports p.memo (reply 0) compiled) ∧
    reply 1 = .ok (.string signature) ∧ signature ≠ ""

/-- Among some answers is one that settles a signature, and the first such one confirms it. -/
def Confirms (reply : Nat → Except WalletError Json) (attempts : Nat) : Prop :=
  ∃ first < attempts, Settles (reply first) .confirmed ∧
    ∀ earlier < first, ¬Conclusive (reply earlier)

theorem outcome_ok_iff {keys : KeyPair} {reply : Nat → Except WalletError Json}
    {signature : String} :
    outcome keys p.recipient p.lamports p.memo (reply 0) (reply 1) = .ok signature ↔
      Accepts keys p reply signature := by
  rw [Wallet.outcome_ok, Accepts]
  refine and_congr_left fun _ => ?_
  constructor
  · intro hne
    obtain ⟨call, hcall⟩ := List.exists_mem_of_ne_nil _ hne
    obtain ⟨compiled, hcompiled, -⟩ := Wallet.mem_submissionCalls.mp hcall
    exact ⟨compiled, hcompiled⟩
  · rintro ⟨compiled, hcompiled⟩
    exact List.ne_nil_of_mem (Wallet.mem_submissionCalls.mpr ⟨compiled, hcompiled, rfl⟩)

theorem SubmitEnds.ok_iff {passwords : List String} {reply : Nat → Except WalletError Json}
    {result : Except CommandError Unit} {events : List Event}
    (h : SubmitEnds config args p passwords reply result events) :
    result = .ok () ↔ ∃ keys signature, Unlocks config passwords p.key keys ∧
      Accepts keys p reply signature ∧
      (args.noWait = true ∨ Confirms (fun i => reply (2 + i)) config.transferPoll.maxAttempts) := by
  cases h with
  | locked hno =>
    refine ⟨nofun, ?_⟩
    rintro ⟨keys, signature, hkeys, -⟩
    exact absurd hkeys (hno keys)
  | failed hkeys houtcome =>
    refine ⟨nofun, ?_⟩
    rintro ⟨keys', signature, hkeys', haccepts, -⟩
    cases hkeys.unique hkeys'
    exact nomatch houtcome.symm.trans (outcome_ok_iff.mpr haccepts)
  | submitted hkeys houtcome hwait =>
    exact ⟨fun _ => ⟨_, _, hkeys, outcome_ok_iff.mp houtcome, .inl hwait⟩, fun _ => rfl⟩
  | awaited hkeys houtcome hwait hpoll hresult =>
    have hne : Confirmation.confirmed ≠ .timedOut := nofun
    rw [hresult, hpoll.eq_verdict_iff hne]
    constructor
    · intro hconfirms
      exact ⟨_, _, hkeys, outcome_ok_iff.mp houtcome, .inr hconfirms⟩
    · rintro ⟨_, _, -, -, hnoWait | hconfirms⟩
      · exact nomatch hwait.symm.trans hnoWait
      · exact hconfirms

theorem SendEnds.ok_iff {result : Except CommandError Unit} {shown : String}
    {events : List Event} (h : SendEnds config args host result shown events) :
    result = .ok () ↔
      (∃ p, Planned config args host.files p ∧ ¬Agreed args host.answer) ∨
      ∃ p keys signature, Planned config args host.files p ∧ Agreed args host.answer ∧
        Unlocks config host.passwords p.key keys ∧
        Accepts keys p (host.link config.rpcUrl).reply signature ∧
        (args.noWait = true ∨ Confirms (fun i => (host.link config.rpcUrl).reply (2 + i))
          config.transferPoll.maxAttempts) := by
  cases h with
  | refused hnone =>
    refine ⟨nofun, ?_⟩
    rintro (⟨p, hp, -⟩ | ⟨p, -, -, hp, -⟩)
    · exact absurd hp (hnone p)
    · exact absurd hp (hnone p)
  | declined hp hno => exact ⟨fun _ => .inl ⟨_, hp, hno⟩, fun _ => rfl⟩
  | agreed hp hagreed hends =>
    rw [hends.ok_iff]
    constructor
    · rintro ⟨keys, signature, hkeys, haccepts, hlast⟩
      exact .inr ⟨_, keys, signature, hp, hagreed, hkeys, haccepts, hlast⟩
    · rintro (⟨p', hp', hno⟩ | ⟨p', keys, signature, hp', -, hkeys, haccepts, hlast⟩)
      · exact absurd hagreed hno
      · cases (plan_looks config args host).unique hp hp'
        exact ⟨keys, signature, hkeys, haccepts, hlast⟩

/-- A node is asked for nothing before a transfer is planned, agreed to and unlocked. Then it is
asked for a blockhash, to take one message at most, and how that fares; what is submitted pays,
from the keys that the password opens, and says what has been shown. A run ends well if the user
declines, or if the transfer is taken and, unless nobody waits for it, confirmed. -/
theorem sends_as_agreed (config : Config) (args : SendArgs) (host : Host) :
    let run := runFrom (send config args) host
    let reply := (host.link config.rpcUrl).reply
    let attempts := if args.noWait then 0 else config.transferPoll.maxAttempts
    ∃ requests, run.2.node.requests = host.node.requests ++ requests ∧
      (requests ≠ [] → ∃ p keys, Planned config args host.files p ∧ Agreed args host.answer ∧
        Unlocks config host.passwords p.key keys) ∧
      (requests.map (·.call.method) <+: "getLatestBlockhash" :: "sendTransaction" ::
        List.replicate attempts "getSignatureStatuses") ∧
      (requests.map (·.call.method)).count "sendTransaction" ≤ 1 ∧
      (∀ request ∈ requests, request.call.method = "sendTransaction" →
        ∃ (p : Plan) (more : String) (keys : KeyPair) (signature : Signature) (bytes : Bytes)
            (message : Message),
          Planned config args host.files p ∧ Unlocks config host.passwords p.key keys ∧
          run.2.output = host.output ++ details args.slot p ++ more ∧
          (∀ other, details args.slot other = details args.slot p →
            other.recipient = p.recipient ∧ other.lamports = p.lamports ∧ other.memo = p.memo) ∧
          request.call.params = .array [.string (Base64.encode (CompactLength.encode 1 ++
            signature.bytes ++ bytes)), .object [("encoding", .string "base64")]] ∧
          Message.read bytes = some message ∧
          message.orders? = some (.pay keys.publicKey p.recipient p.lamports.toNat ::
            (p.memo.map fun memo => Order.note memo.bytes).toList)) ∧
      (run.1 = .ok () ↔
        (∃ p, Planned config args host.files p ∧ ¬Agreed args host.answer) ∨
        ∃ p keys signature, Planned config args host.files p ∧ Agreed args host.answer ∧
          Unlocks config host.passwords p.key keys ∧ Accepts keys p reply signature ∧
          (args.noWait = true ∨
            Confirms (fun i => reply (2 + i)) config.transferPoll.maxAttempts)) := by
  intro run reply attempts
  obtain ⟨result, shown, events, next, hrun, hfollows, hends⟩ := send_ends config args host
  obtain ⟨requests, hrequests, hseen⟩ := hfollows.requests
  obtain ⟨more, hmore⟩ := hfollows.output
  -- what is seen has been called, so a request tells that something was delivered
  have hdelivers : ∀ request ∈ requests, ∃ p keys, shown = details args.slot p ∧
      Delivers config args host p keys (events.filterMap Event.call?) := by
    intro request hrequest
    refine hends.delivers.resolve_left ?_
    rintro rfl
    exact absurd (hseen.subset (List.mem_map_of_mem hrequest)) List.not_mem_nil
  have hmethods : requests.map (·.call.method) <+: "getLatestBlockhash" :: "sendTransaction" ::
      List.replicate attempts "getSignatureStatuses" := by
    have hmap := hseen.map (·.method)
    rw [List.map_map] at hmap
    exact hmap.trans hends.methods
  rw [show run = (result, next) from hrun]
  refine ⟨requests, hrequests, ?_, hmethods, count_methods_le hmethods, ?_, hends.ok_iff⟩
  · intro hne
    obtain ⟨request, hrequest⟩ := List.exists_mem_of_ne_nil requests hne
    obtain ⟨p, keys, -, hdelivered⟩ := hdelivers request hrequest
    exact ⟨p, keys, hdelivered.planned, hdelivered.agreed, hdelivered.unlocked⟩
  · intro request hrequest hmethod
    obtain ⟨p, keys, rfl, hdelivered⟩ := hdelivers request hrequest
    obtain ⟨signature, bytes, message, hparams, hread, horders⟩ :=
      hdelivered.pays (hseen.subset (List.mem_map_of_mem hrequest)) hmethod
    exact ⟨p, more, keys, signature, bytes, message, hdelivered.planned, hdelivered.unlocked,
      hmore, fun other hother => (details_inj hother).2, hparams, hread, horders⟩

end SlotWallet.Command
