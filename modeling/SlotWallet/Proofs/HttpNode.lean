import Mathlib.Logic.Function.Iterate
import SlotWallet.Proofs.Client
import SlotWallet.Proofs.Redirects

/-!
# What a node is asked over HTTP

A node behind a link answers one call after the other from what it is going to give, and which
replies a call uses up is settled by the replies alone. So a link is a scripted transport. The
node sees every call that is made, in order, or none: a link whose address is no good or whose
node cannot be reached shows it nothing.
-/

namespace SlotWallet

namespace HttpLink

def isOpen (link : HttpLink) : Bool := Url.isUsable link.url && link.node.reachable

/-- The way of the call number `i` from here on. -/
def way (link : HttpLink) (i : Nat) : HttpExchange :=
  follow true link.maxHops
    ((fun replies => (follow true link.maxHops replies).replies)^[i] link.node.replies)

def reply (link : HttpLink) (i : Nat) : Except WalletError Json :=
  if Url.isUsable link.url then
    if link.node.reachable then outcome (link.way i).ending else outcome .lost
  else .error (.transport .badUrl)

/-- The link once a call has been made. -/
def called (link : HttpLink) (c : Call) : HttpLink :=
  { link with
    nextId := (link.nextId + 1) % UInt64.size
    node :=
      if link.isOpen then
        { link.node with
          replies := (link.way 0).replies
          requests := link.node.requests ++ [requestOf link.url link.nextId c (link.way 0).hops] }
      else link.node }

theorem call_eq (link : HttpLink) (c : Call) : link.call c = (link.reply 0, link.called c) := by
  obtain ⟨url, maxHops, nextId, node⟩ := link
  by_cases husable : Url.isUsable url = true
  · cases hreachable : node.reachable <;>
      simp [call, called, reply, isOpen, exchange, way, husable, hreachable]
  · simp [call, called, reply, isOpen, husable]

theorem step_asked (link : HttpLink) (c : Call) : Transport.step link (.asked c) = link.called c :=
  congrArg Prod.snd (call_eq link c)

theorem way_called (link : HttpLink) (c : Call) (h : link.isOpen = true) (i : Nat) :
    (link.called c).way i = link.way (i + 1) := by
  rw [called, if_pos h]
  rfl

instance : ScriptedTransport HttpLink where
  reply := reply
  call_fst link c := congrArg Prod.fst (call_eq link c)
  reply_call link c i := by
    have hcall : Transport.call link c = (link.reply 0, link.called c) := call_eq link c
    rw [hcall]
    change (link.called c).reply i = link.reply (i + 1)
    by_cases hopen : link.isOpen = true
    · rw [reply, way_called link c hopen, called, if_pos hopen]
      rfl
    · have hclosed : Url.isUsable link.url = false ∨ link.node.reachable = false := by
        rwa [isOpen, Bool.not_eq_true, Bool.and_eq_false_iff] at hopen
      rw [called, if_neg hopen]
      rcases hclosed with hurl | hreachable
      · simp [reply, hurl]
      · simp [reply, hreachable]
  reply_sleep _ _ _ := rfl

theorem isOpen_step (link : HttpLink) (event : Event) :
    (Transport.step link event).isOpen = link.isOpen := by
  cases event with
  | asked c =>
    rw [step_asked, called]
    cases hopen : link.isOpen <;> simpa [isOpen] using hopen
  | waited nanoseconds => rfl

theorem setup_after (link : HttpLink) (events : List Event) :
    (Transport.after link events).url = link.url ∧
      (Transport.after link events).maxHops = link.maxHops := by
  induction events generalizing link with
  | nil => exact ⟨rfl, rfl⟩
  | cons event events ih =>
    rw [Transport.after_cons, (ih _).1, (ih _).2]
    cases event with
    | asked c =>
      rw [step_asked]
      exact ⟨rfl, rfl⟩
    | waited nanoseconds => exact ⟨rfl, rfl⟩

theorem replies_step (link : HttpLink) (event : Event) :
    (Transport.step link event).node.replies ⊆ link.node.replies := by
  cases event with
  | asked c =>
    rw [step_asked, called]
    cases link.isOpen with
    | true =>
      simp only [if_true, way, Function.iterate_zero_apply, replies_follow]
      exact List.drop_subset _ _
    | false => exact List.Subset.refl _
  | waited nanoseconds => exact List.Subset.refl _

/-- A request is made at the address of a link, and from there its client is led nowhere but
where a reply to the link leads. -/
def Posted (link : HttpLink) (request : HttpRequest) : Prop :=
  request.url = link.url ∧
    ∀ hop ∈ request.hops, ∃ reply ∈ link.node.replies, reply.Redirects hop

theorem posted_of_step {link : HttpLink} {event : Event} {request : HttpRequest}
    (h : (Transport.step link event).Posted request) : link.Posted request := by
  obtain ⟨hurl, hhops⟩ := h
  refine ⟨hurl.trans (setup_after link [event]).1, fun hop hhop => ?_⟩
  obtain ⟨reply, hreply, hredirects⟩ := hhops hop hhop
  exact ⟨reply, replies_step link event hreply, hredirects⟩

theorem requests_step (link : HttpLink) (event : Event) :
    ∃ requests, (Transport.step link event).node.requests = link.node.requests ++ requests ∧
      (requests.map (·.call) = if link.isOpen then event.call?.toList else []) ∧
      ∀ request ∈ requests, link.Posted request := by
  have hnone : ∃ requests, link.node.requests = link.node.requests ++ requests ∧
      requests.map (·.call) = [] ∧ ∀ request ∈ requests, link.Posted request :=
    ⟨[], (List.append_nil _).symm, rfl, nofun⟩
  cases event with
  | asked c =>
    rw [step_asked, called]
    cases link.isOpen with
    | true =>
      refine ⟨_, rfl, rfl, ?_⟩
      rintro request (_ | ⟨_, hnil⟩)
      · exact ⟨rfl, fun hop => redirects_follow⟩
      · cases hnil
    | false => exact hnone
  | waited nanoseconds =>
    have hcall : (if link.isOpen then (Event.waited nanoseconds).call?.toList else []) = [] := by
      cases link.isOpen <;> rfl
    rw [hcall]
    exact hnone

/-- A node sees all calls in order if it sees any, and each as it is to be posted. -/
theorem requests_after (link : HttpLink) (events : List Event) :
    ∃ requests, (Transport.after link events).node.requests = link.node.requests ++ requests ∧
      (requests.map (·.call) = if link.isOpen then events.filterMap Event.call? else []) ∧
      ∀ request ∈ requests, link.Posted request := by
  induction events generalizing link with
  | nil => exact ⟨[], by simp, by simp, nofun⟩
  | cons event events ih =>
    obtain ⟨first, hfirst, hcall, hposted⟩ := requests_step link event
    obtain ⟨later, hlater, hcalls, hlaterPosted⟩ := ih (Transport.step link event)
    refine ⟨first ++ later, ?_, ?_, ?_⟩
    · rw [Transport.after_cons, hlater, hfirst, List.append_assoc]
    · rw [List.map_append, hcall, hcalls, isOpen_step]
      cases link.isOpen <;> cases h : event.call? <;> simp [h]
    · intro request hrequest
      rcases List.mem_append.mp hrequest with hnow | hthen
      · exact hposted request hnow
      · exact posted_of_step (hlaterPosted request hthen)

end HttpLink

end SlotWallet
