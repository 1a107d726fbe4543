import SlotWallet.Node.Methods

/-!
# Confirmation

What a status entry says about a signature, and how long to keep asking. An
entry with an error fails; one that is confirmed or finalized succeeds, and so
does one that names no level but has its confirmations and its error null.
Everything else is pending, a call that fails included.
-/

namespace SlotWallet

inductive Confirmation where
  | pending
  | confirmed
  | failed (cause : Json)
  | timedOut

namespace Confirmation

def isTerminal : Confirmation → Bool
  | .pending => false
  | _ => true

def toResult (signature : String) : Confirmation → Except WalletError Unit
  | .confirmed => pure ()
  | .failed cause => throw (.transactionFailed signature cause.print)
  | .pending | .timedOut => throw (.timeout signature)

def isNullMember (members : List (String × Json)) (key : String) : Bool :=
  match members.lookup key with
  | some .null => true
  | _ => false

def ofLevel (members : List (String × Json)) : Confirmation :=
  match members.lookup "confirmationStatus" with
  | some (.string level) =>
    if level = "confirmed" ∨ level = "finalized" then .confirmed else .pending
  | some _ => .pending
  | none =>
    if isNullMember members "confirmations" && isNullMember members "err" then .confirmed
    else .pending

def ofEntry : Json → Confirmation
  | .object members =>
    match members.lookup "err" with
    | none | some .null => ofLevel members
    | some cause => .failed cause
  | _ => .pending

def ofAnswer : Except WalletError Json → Confirmation
  | .ok entry => ofEntry entry
  | .error _ => .pending

end Confirmation

/-- Poll timing, in nanoseconds. The interval is at least a millisecond. -/
structure PollConfig where
  interval : Nat
  timeout : Nat
  interval_ge : 1000000 ≤ interval

namespace PollConfig

def nanosPerMilli : Nat := 1000000

def nanosPerSecond : Nat := 1000000000

def ofTimes (timeout interval : Nat) : PollConfig :=
  ⟨max interval nanosPerMilli, timeout, Nat.le_max_right ..⟩

def ofSettings (timeoutSecs intervalMillis : Nat) : PollConfig :=
  ofTimes (timeoutSecs * nanosPerSecond) (intervalMillis * nanosPerMilli)

def airdrop : PollConfig := ofSettings 30 1000

def transfer : PollConfig := ofSettings 60 1000

def maxCount : Nat := UInt64.size - 1

/-- The timeout over the interval in whole milliseconds, rounded up; at least
one, and at most what fits 64 bits. -/
def maxAttempts (c : PollConfig) : Nat :=
  let timeout := c.timeout / nanosPerMilli
  let interval := c.interval / nanosPerMilli
  max 1 (min maxCount ((timeout + interval - 1) / interval))

end PollConfig

namespace Client

variable {σ : Type} [Transport σ]

def pollTimes (signature : String) (interval : Nat) : Nat → σ → Confirmation × σ
  | 0, s => (.timedOut, s)
  | left + 1, s =>
    let (answer, s) := (signatureStatus signature : Client σ Json) s
    let state := Confirmation.ofAnswer answer
    if state.isTerminal then (state, s)
    else if left = 0 then (.timedOut, s)
    else pollTimes signature interval left (Transport.sleep s interval)

def waitForConfirmation (signature : String) (config : PollConfig) (s : σ) : Confirmation × σ :=
  pollTimes signature config.interval config.maxAttempts s

end Client

end SlotWallet
