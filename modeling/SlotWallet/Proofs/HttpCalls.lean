import Mathlib.Data.List.Iterate
import Mathlib.Logic.Function.Basic
import SlotWallet.Proofs.Envelope
import SlotWallet.Proofs.HttpNode
import SlotWallet.Proofs.Utf8Cut

/-!
# All calls of a process

The transports of a process have an address and a client each, and one count of ids for all of
them. Over any calls through any of them, the ids are counted on, a node sees the calls that are
for it and no others, each client goes on where the replies lead it, and the result of a call is
the meaning of the end of that way (`run_calls`).
-/

namespace SlotWallet

-- ---------------------------------------------------------------------------
-- The meaning of a reply
-- ---------------------------------------------------------------------------

/-- What the end of a way comes to. An error in the body counts more than a result beside it. -/
inductive Answers : HttpEnd → Except WalletError Json → Prop
  | lost : Answers .lost (.error (.transport .unreachable))
  | tooManyHops : Answers .tooManyHops (.error (.transport .tooManyHops))
  | astray : Answers .astray (.error (.transport .badUrl))
  | refused {status : Nat} {body kept : String} {location : Option String}
    (hstatus : ¬ (200 ≤ status ∧ status ≤ 299)) (hkept : Text.Trimmed 256 body kept) :
    Answers (.response ⟨status, body, location⟩) (.error (.httpStatus status kept))
  | fault {status : Nat} {body message : String} {location : Option String} {code : Int}
    {result : Option Json} (hstatus : 200 ≤ status ∧ status ≤ 299)
    (hbody : Envelope.Says body ⟨result, some ⟨code, message⟩⟩) :
    Answers (.response ⟨status, body, location⟩) (.error (.rpc code message))
  | value {status : Nat} {body : String} {location : Option String} {value : Json}
    (hstatus : 200 ≤ status ∧ status ≤ 299) (hbody : Envelope.Says body ⟨some value, none⟩) :
    Answers (.response ⟨status, body, location⟩) (.ok value)
  | nothing {status : Nat} {body : String} {location : Option String}
    (hstatus : 200 ≤ status ∧ status ≤ 299) (hbody : Envelope.Says body ⟨none, none⟩) :
    Answers (.response ⟨status, body, location⟩) (.error (.protocol .missingResult))
  | unreadable {status : Nat} {body : String} {location : Option String}
    (hstatus : 200 ≤ status ∧ status ≤ 299) (hbody : ∀ b, ¬ Envelope.Says body b) :
    Answers (.response ⟨status, body, location⟩) (.error (.protocol .unparseable))

namespace HttpLink

variable {status : Nat} {body : String} {location : Option String}

theorem isSuccess_iff : isSuccess status = true ↔ 200 ≤ status ∧ status ≤ 299 := by
  simp [isSuccess, Nat.lt_succ_iff]

theorem outcome_success (h : 200 ≤ status ∧ status ≤ 299) :
    outcome (.response ⟨status, body, location⟩) = Envelope.outcome body := by
  simp [outcome, isSuccess_iff.mpr h]

theorem outcome_failure (h : ¬ (200 ≤ status ∧ status ≤ 299)) :
    outcome (.response ⟨status, body, location⟩) =
      .error (.httpStatus status (String.ofList (Text.utf8Take 256 body.toList))) := by
  have hfailure := mt isSuccess_iff.mp h
  simp only [outcome, hfailure]
  rfl

theorem answers_outcome (ending : HttpEnd) : Answers ending (outcome ending) := by
  cases ending with
  | lost => exact .lost
  | tooManyHops => exact .tooManyHops
  | astray => exact .astray
  | response response =>
    obtain ⟨status, body, location⟩ := response
    by_cases hstatus : 200 ≤ status ∧ status ≤ 299
    · rw [outcome_success hstatus]
      by_cases hsays : ∃ b, Envelope.Says body b
      · obtain ⟨⟨result, error⟩, hbody⟩ := hsays
        rw [Envelope.outcome_of_says hbody]
        cases error with
        | some fault => exact .fault hstatus hbody
        | none =>
          cases result with
          | some value => exact .value hstatus hbody
          | none => exact .nothing hstatus hbody
      · have hbody := not_exists.mp hsays
        rw [Envelope.outcome_of_not_says hbody]
        exact .unreadable hstatus hbody
    · rw [outcome_failure hstatus]
      exact .refused hstatus (Text.trimmed_iff.mpr rfl)

theorem answers_iff {ending : HttpEnd} {result : Except WalletError Json} :
    Answers ending result ↔ outcome ending = result := by
  constructor
  · intro h
    cases h with
    | lost | tooManyHops | astray => rfl
    | refused hstatus hkept => rw [outcome_failure hstatus, Text.trimmed_iff.mp hkept]
    | fault hstatus hbody => exact (outcome_success hstatus).trans (Envelope.outcome_of_says hbody)
    | value hstatus hbody => exact (outcome_success hstatus).trans (Envelope.outcome_of_says hbody)
    | nothing hstatus hbody =>
      exact (outcome_success hstatus).trans (Envelope.outcome_of_says hbody)
    | unreadable hstatus hbody =>
      exact (outcome_success hstatus).trans (Envelope.outcome_of_not_says hbody)
  · rintro rfl
    exact answers_outcome ending

theorem reply_of_not_open {link : HttpLink} (h : link.isOpen = false) (i : Nat) :
    ∃ fault, link.reply i = .error (.transport fault) := by
  by_cases husable : Url.isUsable link.url = true
  · have hreachable : link.node.reachable = false := by simpa [isOpen, husable] using h
    exact ⟨.unreachable, by simp [reply, husable, hreachable, outcome]; rfl⟩
  · exact ⟨.badUrl, by simp [reply, husable]⟩

theorem reply_of_open {link : HttpLink} (h : link.isOpen = true) (i : Nat) :
    link.reply i = outcome (link.way i).ending := by
  obtain ⟨husable, hreachable⟩ := Bool.and_eq_true_iff.mp h
  simp [reply, husable, hreachable]

end HttpLink

-- ---------------------------------------------------------------------------
-- Calls through many transports
-- ---------------------------------------------------------------------------

/-- The nodes by number, each with wherever its replies lead, and the id of the next call of a
process. -/
structure HttpNetwork where
  nextId : Nat
  nodes : Nat → HttpNode

/-- A call through the transport for an address, which leads to some node. -/
structure HttpStep where
  url : String
  maxHops : Nat
  node : Nat
  call : Call

structure HttpEvent where
  step : HttpStep
  id : Nat
  hops : List HttpHop
  result : Except WalletError Json

namespace HttpNetwork

def link (net : HttpNetwork) (step : HttpStep) : HttpLink :=
  ⟨step.url, step.maxHops, net.nextId, net.nodes step.node⟩

def sees (net : HttpNetwork) (n : Nat) (step : HttpStep) : Bool :=
  step.node = n && (net.link step).isOpen

def perform (net : HttpNetwork) (step : HttpStep) : HttpEvent × HttpNetwork :=
  let hops := if net.sees step.node step then ((net.link step).way 0).hops else []
  let (result, link) := (net.link step).call step.call
  (⟨step, net.nextId, hops, result⟩, ⟨link.nextId, Function.update net.nodes step.node link.node⟩)

def run (net : HttpNetwork) : List HttpStep → List HttpEvent × HttpNetwork
  | [] => ([], net)
  | step :: rest =>
    let (event, net) := net.perform step
    let (events, net) := net.run rest
    (event :: events, net)

def request? (net : HttpNetwork) (n : Nat) (event : HttpEvent) : Option HttpRequest :=
  if net.sees n event.step then
    some ⟨"POST", event.step.url, "cold-wallet/0.1.0", "application/json", "2.0", event.id,
      event.step.call, event.hops⟩
  else none

/-- The replies that events use up of what node `n` has: one for a call that gets to it, and one
for each hop. -/
def used (net : HttpNetwork) (n : Nat) : List HttpEvent → Nat
  | [] => 0
  | event :: events =>
    (if net.sees n event.step then event.hops.length + 1 else 0) + net.used n events

/-- The replies that there are for a step after others. -/
def repliesTo (net : HttpNetwork) (earlier : List HttpEvent) (step : HttpStep) : List HttpReply :=
  (net.nodes step.node).replies.drop (net.used step.node earlier)

-- ---------------------------------------------------------------------------
-- One step
-- ---------------------------------------------------------------------------

theorem sees_iff {net : HttpNetwork} {n : Nat} {step : HttpStep} :
    net.sees n step = true ↔ step.node = n ∧ (net.link step).isOpen = true := by
  simp [sees]

section Step

variable (net : HttpNetwork) (step : HttpStep)

theorem event_perform : (net.perform step).1 =
    ⟨step, net.nextId, if net.sees step.node step then ((net.link step).way 0).hops else [],
      (net.link step).reply 0⟩ := by
  simp only [perform, HttpLink.call_eq]

theorem nextId_perform : (net.perform step).2.nextId = (net.nextId + 1) % 2 ^ 64 := by
  simp only [perform, HttpLink.call_eq]
  rfl

/-- A step changes at most the node that it leads to. -/
theorem nodes_perform (n : Nat) :
    (net.perform step).2.nodes n =
      if net.sees n step then
        { net.nodes n with
          replies := (net.nodes n).replies.drop (((net.link step).way 0).hops.length + 1)
          requests := (net.nodes n).requests ++
            [HttpLink.requestOf step.url net.nextId step.call ((net.link step).way 0).hops] }
      else net.nodes n := by
  simp only [perform, HttpLink.call_eq, HttpLink.called, Function.update_apply]
  by_cases hn : n = step.node
  · subst hn
    simp [sees, link, HttpLink.way, HttpLink.replies_follow]
  · simp [sees, hn, Ne.symm hn]

theorem reachable_perform (n : Nat) :
    ((net.perform step).2.nodes n).reachable = (net.nodes n).reachable := by
  rw [nodes_perform]
  split <;> rfl

theorem sees_perform (n : Nat) (later : HttpStep) :
    (net.perform step).2.sees n later = net.sees n later := by
  simp only [sees, link, HttpLink.isOpen, reachable_perform]

theorem requests_perform (n : Nat) :
    ((net.perform step).2.nodes n).requests =
      (net.nodes n).requests ++ (net.request? n (net.perform step).1).toList := by
  rw [nodes_perform, event_perform, request?]
  cases hsees : net.sees n step with
  | true =>
    obtain ⟨rfl, -⟩ := sees_iff.mp hsees
    simp [hsees, HttpLink.requestOf, HttpLink.userAgent]
  | false => simp

theorem used_perform (n : Nat) (earlier : List HttpEvent) :
    (net.perform step).2.used n earlier = net.used n earlier := by
  induction earlier with
  | nil => rfl
  | cons event earlier ih => simp only [used, sees_perform, ih]

theorem repliesTo_perform (earlier : List HttpEvent) (later : HttpStep) :
    (net.perform step).2.repliesTo earlier later =
      net.repliesTo ((net.perform step).1 :: earlier) later := by
  simp only [repliesTo, used, used_perform, nodes_perform, event_perform]
  cases hsees : net.sees later.node step with
  | true =>
    obtain ⟨hn, -⟩ := sees_iff.mp hsees
    simp [hsees, hn]
  | false => simp

theorem result_perform :
    if net.sees step.node step then
      ∃ ending,
        HttpChain true step.maxHops (net.repliesTo [] step) (net.perform step).1.hops ending ∧
          ∀ result, Answers ending result ↔ (net.perform step).1.result = result
    else (net.perform step).1.hops = [] ∧
      ∃ fault, (net.perform step).1.result = .error (.transport fault) := by
  rw [event_perform]
  split
  · rename_i hsees
    refine ⟨_, HttpLink.chain_follow _ _ _, fun result => ?_⟩
    rw [HttpLink.answers_iff, HttpLink.reply_of_open (sees_iff.mp hsees).2]
    rfl
  · rename_i hsees
    have hclosed : (net.link step).isOpen = false := by simpa [sees_iff] using hsees
    exact ⟨rfl, HttpLink.reply_of_not_open hclosed 0⟩

end Step

-- ---------------------------------------------------------------------------
-- Runs
-- ---------------------------------------------------------------------------

theorem run_cons (net : HttpNetwork) (step : HttpStep) (rest : List HttpStep) :
    net.run (step :: rest) =
      ((net.perform step).1 :: ((net.perform step).2.run rest).1,
        ((net.perform step).2.run rest).2) := rfl

theorem steps_run (net : HttpNetwork) (steps : List HttpStep) :
    (net.run steps).1.map (·.step) = steps := by
  induction steps generalizing net with
  | nil => rfl
  | cons step rest ih => simp [run_cons, ih, event_perform]

theorem ids_run (net : HttpNetwork) (steps : List HttpStep) :
    (net.run steps).1.map (·.id) =
      List.iterate (fun id => (id + 1) % 2 ^ 64) net.nextId steps.length := by
  induction steps generalizing net with
  | nil => rfl
  | cons step rest ih => simp [run_cons, ih, event_perform, nextId_perform, List.iterate]

theorem requests_run (net : HttpNetwork) (steps : List HttpStep) (n : Nat) :
    ((net.run steps).2.nodes n).requests =
      (net.nodes n).requests ++ (net.run steps).1.filterMap (net.request? n) := by
  induction steps generalizing net with
  | nil => simp [run]
  | cons step rest ih =>
    have hsame : (net.perform step).2.request? n = net.request? n := by
      funext event
      simp [request?, sees_perform]
    rw [run_cons, ih, hsame, requests_perform]
    cases hrequest : net.request? n (net.perform step).1 <;> simp [hrequest]

theorem result_run {net : HttpNetwork} {steps : List HttpStep} {earlier later : List HttpEvent}
    {event : HttpEvent} (h : (net.run steps).1 = earlier ++ event :: later) :
    if net.sees event.step.node event.step then
      ∃ ending,
        HttpChain true event.step.maxHops (net.repliesTo earlier event.step) event.hops ending ∧
          ∀ result, Answers ending result ↔ event.result = result
    else event.hops = [] ∧ ∃ fault, event.result = .error (.transport fault) := by
  induction steps generalizing net earlier with
  | nil => simp [run] at h
  | cons step rest ih =>
    rw [run_cons] at h
    cases earlier with
    | nil =>
      obtain ⟨rfl, -⟩ := List.cons.inj h
      have hstep : (net.perform step).1.step = step := by rw [event_perform]
      rw [hstep]
      exact net.result_perform step
    | cons first earlier =>
      obtain ⟨rfl, hrest⟩ := List.cons.inj h
      have hresult := ih hrest
      simpa only [sees_perform, repliesTo_perform] using hresult

theorem run_single {net : HttpNetwork} {step : HttpStep} (h : net.sees step.node step = true) :
    let done := HttpLink.follow true step.maxHops (net.nodes step.node).replies
    (net.run [step]).1 = [⟨step, net.nextId, done.hops, HttpLink.outcome done.ending⟩] ∧
      ((net.run [step]).2.nodes step.node).requests = (net.nodes step.node).requests ++
        [HttpLink.requestOf step.url net.nextId step.call done.hops] := by
  constructor
  · rw [run_cons, event_perform, if_pos h, HttpLink.reply_of_open (sees_iff.mp h).2]
    rfl
  · rw [run_cons, run, nodes_perform, if_pos h]
    rfl

end HttpNetwork

end SlotWallet
