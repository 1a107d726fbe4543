import SlotWallet.Node.Scripted
import SlotWallet.Proofs.Success

/-!
# Runs of a client

The laws by which a client is run step by step, and what a run leaves of the transport
at the other end. A scripted transport is described from one point on: by the answers
that are still to come (`ScriptedTransport.reply`) and by what is done with it
(`Transport.after`).
-/

namespace SlotWallet

namespace Client

variable {σ α β : Type}

def runFrom (x : Client σ α) (s : σ) : Except WalletError α × σ := x.run.run s

@[simp] theorem runFrom_ask [Transport σ] (call : Call) (s : σ) :
    runFrom (ask call) s = Transport.call s call := rfl

@[simp] theorem runFrom_lift (x : Except WalletError α) (s : σ) :
    runFrom (lift x : Client σ α) s = (x, s) := by
  cases x <;> rfl

theorem runFrom_bind (x : Client σ α) (f : α → Client σ β) (s : σ) :
    runFrom (x >>= f) s = match runFrom x s with
      | (.ok a, next) => runFrom (f a) next
      | (.error e, next) => (.error e, next) := by
  rw [runFrom, run_bind, runFrom]
  rcases x.run.run s with ⟨_ | _, _⟩ <;> rfl

theorem runFrom_lift_bind (x : Except WalletError α) (f : α → Client σ β) (s : σ) :
    runFrom (lift x >>= f) s = match x with
      | .ok a => runFrom (f a) s
      | .error e => (.error e, s) := by
  rw [runFrom_bind, runFrom_lift]
  cases x <;> rfl

theorem runFrom_read [Transport σ] (call : Call) (read : Json → Except WalletError α) (s : σ) :
    runFrom (do lift (read (← ask call))) s =
      ((Transport.call s call).1 >>= read, (Transport.call s call).2) := by
  rw [runFrom_bind, runFrom_ask]
  rcases Transport.call s call with ⟨_ | answer, next⟩
  · rfl
  · exact runFrom_lift (read answer) next

end Client

-- ---------------------------------------------------------------------------
-- Transports
-- ---------------------------------------------------------------------------

inductive Event where
  | asked (call : Call)
  | waited (nanoseconds : Nat)

namespace Event

def call? : Event → Option Call
  | .asked call => some call
  | .waited _ => none

theorem filterMap_asked (calls : List Call) : (calls.map asked).filterMap call? = calls := by
  rw [List.filterMap_map]
  exact List.filterMap_some

end Event

namespace Transport

variable {σ : Type} [Transport σ]

def step (s : σ) : Event → σ
  | .asked c => (call s c).2
  | .waited nanoseconds => sleep s nanoseconds

def after (s : σ) (events : List Event) : σ := events.foldl step s

@[simp] theorem after_nil (s : σ) : after s [] = s := rfl

@[simp] theorem after_cons (s : σ) (event : Event) (events : List Event) :
    after s (event :: events) = after (step s event) events := rfl

@[simp] theorem after_after (s : σ) (events events' : List Event) :
    after (after s events) events' = after s (events ++ events') :=
  List.foldl_append.symm

end Transport

/-- A transport whose answers are settled beforehand: each call gets the next one,
whatever it asks, and waiting uses up none. -/
class ScriptedTransport (σ : Type) [Transport σ] where
  /-- The answer to the call number `i` from here on. -/
  reply : σ → Nat → Except WalletError Json
  call_fst : ∀ (s : σ) (c : Call), (Transport.call s c).1 = reply s 0
  reply_call : ∀ (s : σ) (c : Call) (i : Nat), reply (Transport.call s c).2 i = reply s (i + 1)
  reply_sleep : ∀ (s : σ) (nanoseconds i : Nat),
    reply (Transport.sleep s nanoseconds) i = reply s i

namespace ScriptedTransport

variable {σ : Type} [Transport σ] [ScriptedTransport σ]

theorem call_eq (s : σ) (c : Call) :
    Transport.call s c = (reply s 0, Transport.after s [.asked c]) :=
  Prod.ext (call_fst s c) rfl

@[simp] theorem reply_after_calls (s : σ) (calls : List Call) (i : Nat) :
    reply (Transport.after s (calls.map .asked)) i = reply s (calls.length + i) := by
  induction calls generalizing s with
  | nil => simp
  | cons c calls ih =>
    have hstep : ∀ j, reply (Transport.step s (.asked c)) j = reply s (j + 1) := reply_call s c
    rw [List.map_cons, Transport.after_cons, ih, hstep, List.length_cons]
    congr 1
    omega

theorem reply_after_round (s : σ) (c : Call) (nanoseconds : Nat) :
    reply (Transport.after s [.asked c, .waited nanoseconds]) = fun i => reply s (i + 1) :=
  funext fun i => (reply_sleep _ nanoseconds i).trans (reply_call s c i)

theorem runFrom_method {α : Type} (c : Call) (read : Json → Except WalletError α) (s : σ) :
    Client.runFrom (do Client.lift (read (← Client.ask c))) s =
      (reply s 0 >>= read, Transport.after s [.asked c]) := by
  rw [Client.runFrom_read, call_eq]

end ScriptedTransport

/-- A transport that keeps what is done with it, in order. -/
structure Recorded (σ : Type) where
  transport : σ
  events : List Event

namespace Recorded

variable {σ : Type} [Transport σ]

instance : Transport (Recorded σ) where
  call r c :=
    ((Transport.call r.transport c).1, ⟨(Transport.call r.transport c).2, r.events ++ [.asked c]⟩)
  sleep r nanoseconds :=
    ⟨Transport.sleep r.transport nanoseconds, r.events ++ [.waited nanoseconds]⟩

instance [ScriptedTransport σ] : ScriptedTransport (Recorded σ) where
  reply r := ScriptedTransport.reply r.transport
  call_fst r := ScriptedTransport.call_fst r.transport
  reply_call r := ScriptedTransport.reply_call r.transport
  reply_sleep r := ScriptedTransport.reply_sleep r.transport

theorem events_after (r : Recorded σ) (events : List Event) :
    (Transport.after r events).events = r.events ++ events := by
  induction events generalizing r with
  | nil => simp
  | cons event events ih =>
    have hstep : (Transport.step r event).events = r.events ++ [event] := by
      cases event <;> rfl
    rw [Transport.after_cons, ih, hstep, List.append_assoc, List.singleton_append]

end Recorded

namespace ScriptedNode

/-- The answer to the call number `i` from here on. -/
def reply (node : ScriptedNode) (i : Nat) : Except WalletError Json :=
  node.replies.getD i (.error exhausted)

def after (node : ScriptedNode) (calls : List Call) : ScriptedNode :=
  { node with replies := node.replies.drop calls.length, calls := node.calls ++ calls }

theorem call_eq (node : ScriptedNode) (call : Call) :
    Transport.call node call = (node.reply 0, node.after [call]) := by
  obtain ⟨replies, calls, slept⟩ := node
  cases replies <;> rfl

instance : ScriptedTransport ScriptedNode where
  reply := reply
  call_fst node c := congrArg Prod.fst (call_eq node c)
  reply_call node c i := by
    rw [call_eq]
    simp [reply, after, List.getD_eq_getElem?_getD]
  reply_sleep _ _ _ := rfl

theorem after_asked (node : ScriptedNode) (calls : List Call) :
    Transport.after node (calls.map .asked) = node.after calls := by
  induction calls generalizing node with
  | nil => simp [after]
  | cons c calls ih =>
    have hstep : Transport.step node (.asked c) = node.after [c] :=
      congrArg Prod.snd (call_eq node c)
    rw [List.map_cons, Transport.after_cons, hstep, ih]
    simp [after]

end ScriptedNode

end SlotWallet
