import SlotWallet.Confirmation
import SlotWallet.Proofs.Client
import SlotWallet.Proofs.Success

/-!
# Polling for a confirmation

A reply settles a signature if its first status entry gives a verdict (`Settles`); all
other replies, failed calls included, only use up an attempt. A poll ends with the first
reply that settles, or when its attempts are used up (`PollEnds`), and waits between one
query and the next but not after the last.
-/

namespace SlotWallet

-- ---------------------------------------------------------------------------
-- Verdicts
-- ---------------------------------------------------------------------------

inductive Verdict : Json → Confirmation → Prop
  | failed {members : List (String × Json)} {cause : Json} :
      members.lookup "err" = some cause → cause ≠ .null →
      Verdict (.object members) (.failed cause)
  | reached {members : List (String × Json)} {level : String} :
      members.lookup "err" = none ∨ members.lookup "err" = some .null →
      members.lookup "confirmationStatus" = some (.string level) →
      level = "confirmed" ∨ level = "finalized" →
      Verdict (.object members) .confirmed
  | unnamed {members : List (String × Json)} :
      members.lookup "confirmationStatus" = none →
      members.lookup "confirmations" = some .null → members.lookup "err" = some .null →
      Verdict (.object members) .confirmed

/-- What a reply says about a signature: the verdict of its first entry. -/
def Settles (reply : Except WalletError Json) (verdict : Confirmation) : Prop :=
  ∃ result statuses entry, reply = .ok result ∧ result.get? "value" = some statuses ∧
    statuses.at? 0 = some entry ∧ Verdict entry verdict

def Conclusive (reply : Except WalletError Json) : Prop := ∃ verdict, Settles reply verdict

namespace Confirmation

variable {members : List (String × Json)} {verdict : Confirmation}

theorem isNullMember_iff {key : String} :
    isNullMember members key = true ↔ members.lookup key = some .null := by
  unfold isNullMember
  split
  · rename_i h
    simp [h]
  · rename_i h
    simp only [Bool.false_eq_true, false_iff]
    exact h

theorem ofLevel_cases : ofLevel members = .pending ∨ ofLevel members = .confirmed := by
  unfold ofLevel
  split
  · split
    · exact .inr rfl
    · exact .inl rfl
  · exact .inl rfl
  · split
    · exact .inr rfl
    · exact .inl rfl

theorem ofLevel_confirmed :
    ofLevel members = .confirmed ↔
      (∃ level, members.lookup "confirmationStatus" = some (.string level) ∧
        (level = "confirmed" ∨ level = "finalized")) ∨
      (members.lookup "confirmationStatus" = none ∧
        members.lookup "confirmations" = some .null ∧ members.lookup "err" = some .null) := by
  unfold ofLevel
  split
  · rename_i level hlevel
    by_cases hreached : level = "confirmed" ∨ level = "finalized"
    · simp [hlevel, hreached]
    · simp [hlevel, hreached]
  · rename_i other hnot hother
    simp only [reduceCtorEq, hother, Option.some.injEq, false_and, or_false, false_iff]
    rintro ⟨level, rfl, -⟩
    exact hnot level rfl
  · rename_i hnone
    simp [hnone, isNullMember_iff]

theorem ofEntry_of_cause {cause : Json} (h : members.lookup "err" = some cause)
    (hcause : cause ≠ .null) : ofEntry (.object members) = .failed cause := by
  cases cause with
  | null => exact absurd rfl hcause
  | _ => simp only [ofEntry, h]

theorem ofEntry_of_no_cause
    (h : members.lookup "err" = none ∨ members.lookup "err" = some .null) :
    ofEntry (.object members) = ofLevel members := by
  rcases h with h | h <;> simp only [ofEntry, h]

theorem ofEntry_iff {entry : Json} :
    Verdict entry verdict ↔ ofEntry entry = verdict ∧ verdict ≠ .pending := by
  constructor
  · intro h
    cases h with
    | failed herr hcause => exact ⟨ofEntry_of_cause herr hcause, nofun⟩
    | reached herr hstatus hlevel =>
      rw [ofEntry_of_no_cause herr]
      exact ⟨ofLevel_confirmed.mpr (.inl ⟨_, hstatus, hlevel⟩), nofun⟩
    | unnamed hstatus hconfirmations herr =>
      rw [ofEntry_of_no_cause (.inr herr)]
      exact ⟨ofLevel_confirmed.mpr (.inr ⟨hstatus, hconfirmations, herr⟩), nofun⟩
  · rintro ⟨rfl, hpending⟩
    cases entry with
    | object members =>
      by_cases hcause : ∃ cause, members.lookup "err" = some cause ∧ cause ≠ .null
      · obtain ⟨cause, herr, hne⟩ := hcause
        rw [ofEntry_of_cause herr hne]
        exact .failed herr hne
      have herr : members.lookup "err" = none ∨ members.lookup "err" = some .null := by
        cases herr : members.lookup "err" with
        | none => exact .inl rfl
        | some cause => exact .inr (by simp_all)
      rw [ofEntry_of_no_cause herr] at hpending ⊢
      have hconfirmed := ofLevel_cases.resolve_left hpending
      rw [hconfirmed]
      obtain ⟨level, hstatus, hlevel⟩ | ⟨hstatus, hconfirmations, herr⟩ :=
        ofLevel_confirmed.mp hconfirmed
      · exact .reached herr hstatus hlevel
      · exact .unnamed hstatus hconfirmations herr
    | _ => exact absurd rfl hpending

end Confirmation

theorem Client.readStatus_ok {result entry : Json} :
    readStatus result = .ok entry ↔
      ∃ statuses, result.get? "value" = some statuses ∧ statuses.at? 0 = some entry := by
  unfold readStatus
  rw [← Option.bind_eq_some_iff]
  cases (result.get? "value").bind (·.at? 0) with
  | none => simp [throw, throwThe, MonadExceptOf.throw]
  | some found => simp [pure, Except.pure]

theorem settles_iff {reply : Except WalletError Json} {verdict : Confirmation} :
    Settles reply verdict ↔
      Confirmation.ofAnswer (reply >>= Client.readStatus) = verdict ∧ verdict ≠ .pending := by
  constructor
  · rintro ⟨result, statuses, entry, rfl, hvalue, hentry, hverdict⟩
    have hread : (Except.ok result >>= Client.readStatus) = .ok entry :=
      Client.readStatus_ok.mpr ⟨statuses, hvalue, hentry⟩
    rw [hread]
    exact Confirmation.ofEntry_iff.mp hverdict
  · rintro ⟨hanswer, hpending⟩
    cases hread : reply >>= Client.readStatus with
    | error e =>
      rw [hread] at hanswer
      exact absurd hanswer.symm hpending
    | ok entry =>
      rw [hread] at hanswer
      obtain ⟨result, hreply, hstatus⟩ := bind_ok.mp hread
      obtain ⟨statuses, hvalue, hentry⟩ := Client.readStatus_ok.mp hstatus
      exact ⟨result, statuses, entry, hreply, hvalue, hentry,
        Confirmation.ofEntry_iff.mpr ⟨hanswer, hpending⟩⟩

theorem Settles.unique {reply : Except WalletError Json} {verdict verdict' : Confirmation}
    (h : Settles reply verdict) (h' : Settles reply verdict') : verdict = verdict' :=
  (settles_iff.mp h).1.symm.trans (settles_iff.mp h').1

theorem Settles.ne_timedOut {reply : Except WalletError Json} {verdict : Confirmation}
    (h : Settles reply verdict) : verdict ≠ .timedOut := by
  obtain ⟨result, statuses, entry, -, -, -, hverdict⟩ := h
  cases hverdict <;> exact nofun

theorem not_conclusive_error (e : WalletError) : ¬Conclusive (.error e) := by
  rintro ⟨verdict, result, statuses, entry, hreply, -⟩
  contradiction

theorem not_conclusive_of_no_entry {result : Json}
    (h : ∀ statuses, result.get? "value" = some statuses → statuses.at? 0 = none) :
    ¬Conclusive (.ok result) := by
  rintro ⟨verdict, result', statuses, entry, hreply, hvalue, hentry, -⟩
  cases hreply
  rw [h statuses hvalue] at hentry
  contradiction

-- ---------------------------------------------------------------------------
-- Polls
-- ---------------------------------------------------------------------------

namespace Client

def rounds (signature : String) (interval count : Nat) : List Event :=
  (List.replicate count (.asked (statusCall signature))).intersperse (.waited interval)

theorem rounds_succ_succ (signature : String) (interval count : Nat) :
    rounds signature interval (count + 2) =
      .asked (statusCall signature) :: .waited interval :: rounds signature interval (count + 1) :=
  rfl

theorem filterMap_rounds (signature : String) (interval count : Nat) :
    (rounds signature interval count).filterMap Event.call? =
      List.replicate count (statusCall signature) := by
  induction count with
  | zero => rfl
  | succ count ih =>
    cases count with
    | zero => rfl
    | succ count =>
      rw [rounds_succ_succ, List.replicate_succ, ← ih]
      rfl

/-- How a poll of `attempts` attempts ends, and what it has done by then. -/
inductive PollEnds (signature : String) (interval : Nat)
    (reply : Nat → Except WalletError Json) (attempts : Nat) : Confirmation → List Event → Prop
  | settled {first : Nat} {verdict : Confirmation} :
      first < attempts → Settles (reply first) verdict →
      (∀ earlier < first, ¬Conclusive (reply earlier)) →
      PollEnds signature interval reply attempts verdict (rounds signature interval (first + 1))
  | exhausted :
      (∀ i < attempts, ¬Conclusive (reply i)) →
      PollEnds signature interval reply attempts .timedOut (rounds signature interval attempts)

variable {signature : String} {interval : Nat} {reply : Nat → Except WalletError Json}
variable {attempts : Nat} {state : Confirmation} {events : List Event}

theorem PollEnds.cons (hfirst : ¬Conclusive (reply 0))
    (h : PollEnds signature interval (fun i => reply (i + 1)) (attempts + 1) state events) :
    PollEnds signature interval reply (attempts + 2) state
      (.asked (statusCall signature) :: .waited interval :: events) := by
  have hshift : ∀ {bound : Nat}, (∀ i < bound, ¬Conclusive (reply (i + 1))) →
      ∀ i < bound + 1, ¬Conclusive (reply i) := by
    intro bound hlater i hi
    cases i with
    | zero => exact hfirst
    | succ i => exact hlater i (Nat.lt_of_succ_lt_succ hi)
  cases h with
  | settled hlt hsettles hearlier =>
    rw [← rounds_succ_succ]
    exact .settled (Nat.succ_lt_succ hlt) hsettles (hshift hearlier)
  | exhausted hnone =>
    rw [← rounds_succ_succ]
    exact .exhausted (hshift hnone)

theorem PollEnds.eq_timedOut_iff
    (h : PollEnds signature interval reply attempts state events) :
    state = .timedOut ↔ ∀ i < attempts, ¬Conclusive (reply i) := by
  cases h with
  | settled hlt hsettles _ =>
    constructor
    · intro htimedOut
      exact absurd htimedOut hsettles.ne_timedOut
    · intro hnone
      exact absurd ⟨_, hsettles⟩ (hnone _ hlt)
  | exhausted hnone => exact ⟨fun _ => hnone, fun _ => rfl⟩

theorem PollEnds.ne_pending (h : PollEnds signature interval reply attempts state events) :
    state ≠ .pending := by
  cases h with
  | settled _ hsettles _ => exact (settles_iff.mp hsettles).2
  | exhausted _ => exact nofun

/-- Only one end is possible once it is known which reply is the first to settle. -/
theorem PollEnds.of_first {first : Nat} {verdict : Confirmation}
    (h : PollEnds signature interval reply attempts state events) (hlt : first < attempts)
    (hsettles : Settles (reply first) verdict)
    (hearlier : ∀ earlier < first, ¬Conclusive (reply earlier)) :
    state = verdict ∧ events = rounds signature interval (first + 1) := by
  cases h with
  | @settled first' _ hlt' hsettles' hearlier' =>
    have hfirst : first' = first := by
      rcases Nat.lt_trichotomy first' first with hbefore | heq | hafter
      · exact absurd ⟨_, hsettles'⟩ (hearlier first' hbefore)
      · exact heq
      · exact absurd ⟨_, hsettles⟩ (hearlier' first hafter)
    subst hfirst
    exact ⟨hsettles'.unique hsettles, rfl⟩
  | exhausted hnone => exact absurd ⟨_, hsettles⟩ (hnone first hlt)

theorem PollEnds.of_none (h : PollEnds signature interval reply attempts state events)
    (hnone : ∀ i < attempts, ¬Conclusive (reply i)) :
    events = rounds signature interval attempts := by
  cases h with
  | settled hlt hsettles _ => exact absurd ⟨_, hsettles⟩ (hnone _ hlt)
  | exhausted _ => rfl

theorem PollEnds.eq_verdict_iff {verdict : Confirmation}
    (h : PollEnds signature interval reply attempts state events) (hverdict : verdict ≠ .timedOut) :
    state = verdict ↔ ∃ first < attempts, Settles (reply first) verdict ∧
      ∀ earlier < first, ¬Conclusive (reply earlier) := by
  constructor
  · rintro rfl
    cases h with
    | settled hlt hsettles hearlier => exact ⟨_, hlt, hsettles, hearlier⟩
    | exhausted _ => exact absurd rfl hverdict
  · rintro ⟨first, hlt, hsettles, hearlier⟩
    exact (h.of_first hlt hsettles hearlier).1

theorem PollEnds.calls (h : PollEnds signature interval reply attempts state events) :
    ∃ count ≤ attempts, events.filterMap Event.call? =
      List.replicate count (statusCall signature) := by
  cases h with
  | settled hlt _ _ => exact ⟨_, hlt, filterMap_rounds signature interval _⟩
  | exhausted _ => exact ⟨_, Nat.le_refl _, filterMap_rounds signature interval _⟩

section Transports

variable {σ : Type} [Transport σ] [ScriptedTransport σ]

theorem signatureStatus_run (signature : String) (s : σ) :
    runFrom (signatureStatus signature) s =
      (ScriptedTransport.reply s 0 >>= readStatus,
        Transport.after s [.asked (statusCall signature)]) :=
  ScriptedTransport.runFrom_method (statusCall signature) readStatus s

theorem pollTimes_succ (signature : String) (interval left : Nat) (s : σ) :
    pollTimes signature interval (left + 1) s =
      let state := Confirmation.ofAnswer (ScriptedTransport.reply s 0 >>= readStatus)
      let asked := Transport.after s [.asked (statusCall signature)]
      if state.isTerminal then (state, asked)
      else if left = 0 then (.timedOut, asked)
      else pollTimes signature interval left (Transport.after asked [.waited interval]) := by
  have hrun : (signatureStatus signature : Client σ Json) s = _ := signatureStatus_run signature s
  rw [pollTimes, hrun]
  rfl

theorem pollTimes_ends (signature : String) (interval attempts : Nat) (s : σ) :
    ∃ state events,
      PollEnds signature interval (ScriptedTransport.reply s) attempts state events ∧
        pollTimes signature interval attempts s = (state, Transport.after s events) := by
  induction attempts generalizing s with
  | zero => exact ⟨_, _, .exhausted nofun, rfl⟩
  | succ left ih =>
    rw [pollTimes_succ]
    by_cases hconclusive : Conclusive (ScriptedTransport.reply s 0)
    · obtain ⟨verdict, hsettles⟩ := hconclusive
      obtain ⟨hanswer, hpending⟩ := settles_iff.mp hsettles
      refine ⟨verdict, rounds signature interval 1, .settled (Nat.succ_pos left) hsettles nofun, ?_⟩
      have hterminal : verdict.isTerminal = true := by
        cases verdict with
        | pending => exact absurd rfl hpending
        | _ => rfl
      dsimp only
      rw [hanswer, if_pos hterminal]
      rfl
    · have hpending : Confirmation.ofAnswer (ScriptedTransport.reply s 0 >>= readStatus) =
          .pending :=
        Classical.byContradiction fun hne => hconclusive ⟨_, settles_iff.mpr ⟨rfl, hne⟩⟩
      dsimp only
      rw [hpending, if_neg (by decide)]
      cases left with
      | zero =>
        refine ⟨.timedOut, rounds signature interval 1, .exhausted ?_, rfl⟩
        intro i hi
        rwa [Nat.lt_one_iff.mp hi]
      | succ left =>
        rw [if_neg (Nat.succ_ne_zero left), Transport.after_after, List.singleton_append]
        obtain ⟨state, events, hends, hrun⟩ :=
          ih (Transport.after s [.asked (statusCall signature), .waited interval])
        rw [ScriptedTransport.reply_after_round] at hends
        refine ⟨state, _, hends.cons hconclusive, ?_⟩
        rw [hrun, Transport.after_after]
        rfl

end Transports

/-- A poll ends with what the first reply says that settles the signature, among those that
its attempts get, and times out exactly if there is none. It makes one query for each
reply up to that one, all of them alike, and waits once between two of them. Failed calls
and results without an entry settle nothing. -/
theorem polls_until_settled (signature : String) (config : PollConfig)
    (replies : List (Except WalletError Json)) :
    let reply (i : Nat) := replies.getD i (.error ScriptedNode.exhausted)
    let query : Event := .asked ⟨"getSignatureStatuses", .array [.array [.string signature],
      .object [("searchTransactionHistory", .bool true)]]⟩
    let queries (count : Nat) :=
      (List.replicate count query).intersperse (.waited config.interval)
    let run := waitForConfirmation signature config
      (⟨ScriptedNode.ofReplies replies, []⟩ : Recorded ScriptedNode)
    (∀ first < config.maxAttempts, ∀ verdict, Settles (reply first) verdict →
      (∀ earlier < first, ¬Conclusive (reply earlier)) →
        run.1 = verdict ∧ run.2.events = queries (first + 1)) ∧
    ((∀ i < config.maxAttempts, ¬Conclusive (reply i)) →
      run.2.events = queries config.maxAttempts) ∧
    (run.1 = .timedOut ↔ ∀ i < config.maxAttempts, ¬Conclusive (reply i)) ∧
    run.1 ≠ .pending ∧
    (∀ e, ¬Conclusive (.error e)) ∧
    ∀ result, (∀ statuses, result.get? "value" = some statuses → statuses.at? 0 = none) →
      ¬Conclusive (.ok result) := by
  intro reply query queries run
  obtain ⟨state, events, hends, hrun⟩ := pollTimes_ends signature config.interval
    config.maxAttempts (⟨ScriptedNode.ofReplies replies, []⟩ : Recorded ScriptedNode)
  have hstate : run.1 = state := congrArg Prod.fst hrun
  have hevents : run.2.events = events := by
    rw [show run.2 = _ from congrArg Prod.snd hrun, Recorded.events_after, List.nil_append]
  rw [hstate, hevents]
  exact ⟨fun first hlt verdict hsettles hearlier => hends.of_first hlt hsettles hearlier,
    hends.of_none, hends.eq_timedOut_iff, hends.ne_pending, not_conclusive_error,
    fun result => not_conclusive_of_no_entry⟩

end Client

end SlotWallet
