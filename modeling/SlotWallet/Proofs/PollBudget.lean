import Mathlib.Algebra.Order.Floor.Div
import SlotWallet.Config.Basic
import SlotWallet.Proofs.Polling

/-!
# How long a poll takes

A poll may ask as often as its interval fits into its timeout, rounded up. The count is found in
words of 128 bits, which no step leaves (`attempts128?_eq`), and the waits between that many
queries stay within the timeout, while one more interval would cover it.
-/

namespace SlotWallet

structure Duration where
  seconds : UInt64
  nanos : Nat
  nanos_lt : nanos < PollConfig.nanosPerSecond

namespace Duration

open PollConfig (nanosPerMilli nanosPerSecond)

def nanoseconds (d : Duration) : Nat := d.seconds.toNat * nanosPerSecond + d.nanos

def ofSeconds (seconds : UInt64) : Duration := ⟨seconds, 0, by decide⟩

def ofMillis (millis : UInt64) : Duration :=
  ⟨millis / 1000, millis.toNat % 1000 * nanosPerMilli,
    by unfold nanosPerMilli nanosPerSecond; omega⟩

theorem nanoseconds_lt (d : Duration) : d.nanoseconds < 2 ^ 64 * nanosPerSecond := by
  have hseconds := d.seconds.toNat_lt
  have hnanos := d.nanos_lt
  unfold nanoseconds nanosPerSecond at *
  omega

theorem nanoseconds_ofSeconds (seconds : UInt64) :
    (ofSeconds seconds).nanoseconds = seconds.toNat * nanosPerSecond := by
  simp [ofSeconds, nanoseconds]

theorem nanoseconds_ofMillis (millis : UInt64) :
    (ofMillis millis).nanoseconds = millis.toNat * nanosPerMilli := by
  simp only [ofMillis, nanoseconds, nanosPerSecond, nanosPerMilli, UInt64.toNat_div]
  change millis.toNat / 1000 * 1000000000 + millis.toNat % 1000 * 1000000 = _
  omega

end Duration

-- ---------------------------------------------------------------------------
-- The number of attempts
-- ---------------------------------------------------------------------------

namespace PollConfig

def word128? (n : Nat) : Option Nat := if n < 2 ^ 128 then some n else none

/-- The number of attempts in words of 128 bits, unless a step goes beyond them, below zero or
divides by zero. -/
def attempts128? (c : PollConfig) : Option Nat := do
  let timeout ← word128? (c.timeout / nanosPerMilli)
  let interval ← word128? (c.interval / nanosPerMilli)
  let interval := max interval 1
  let sum ← word128? (timeout + interval)
  let sum ← if 1 ≤ sum then some (sum - 1) else none
  let count ← if interval = 0 then none else some (sum / interval)
  pure (max (if count < 2 ^ 64 then count else 2 ^ 64 - 1) 1)

variable {c : PollConfig}

theorem word128?_of_lt {n : Nat} (h : n < 2 ^ 128) : word128? n = some n := if_pos h

theorem one_le_millis (c : PollConfig) : 1 ≤ c.interval / nanosPerMilli :=
  (Nat.le_div_iff_mul_le (by decide)).mpr (by simpa [nanosPerMilli] using c.interval_ge)

def wanted (c : PollConfig) : Nat := c.timeout / nanosPerMilli ⌈/⌉ (c.interval / nanosPerMilli)

theorem maxAttempts_eq (c : PollConfig) : c.maxAttempts = max 1 (min (2 ^ 64 - 1) c.wanted) := by
  rw [wanted, Nat.ceilDiv_eq_add_pred_div]
  rfl

theorem one_le_maxAttempts (c : PollConfig) : 1 ≤ c.maxAttempts := by
  rw [maxAttempts_eq]
  exact Nat.le_max_left ..

theorem maxAttempts_of_lt_wanted (h : 2 ^ 64 - 1 < c.wanted) : c.maxAttempts = 2 ^ 64 - 1 := by
  rw [maxAttempts_eq, Nat.min_eq_left h.le]
  decide

theorem attempts128?_eq (htimeout : c.timeout < 2 ^ 64 * nanosPerSecond)
    (hinterval : c.interval < 2 ^ 64 * nanosPerSecond) : c.attempts128? = some c.maxAttempts := by
  have hone := c.one_le_millis
  have ht : c.timeout / nanosPerMilli < 2 ^ 127 := by
    unfold nanosPerMilli nanosPerSecond at *
    omega
  have hi : c.interval / nanosPerMilli < 2 ^ 127 := by
    unfold nanosPerMilli nanosPerSecond at *
    omega
  have hsum : c.timeout / nanosPerMilli + c.interval / nanosPerMilli < 2 ^ 128 := by omega
  rw [attempts128?, word128?_of_lt (by omega), word128?_of_lt (by omega)]
  simp only [Option.bind_eq_bind, Option.bind_some, Nat.max_eq_left hone, word128?_of_lt hsum]
  have hpos : 1 ≤ c.timeout / nanosPerMilli + c.interval / nanosPerMilli :=
    Nat.le_add_left_of_le hone
  rw [if_pos hpos, if_neg (Nat.ne_of_gt hone), maxAttempts_eq, wanted,
    Nat.ceilDiv_eq_add_pred_div]
  change some _ = some _
  congr 1
  split <;> omega

-- ---------------------------------------------------------------------------
-- The budget
-- ---------------------------------------------------------------------------

theorem interval_eq (h : nanosPerMilli ∣ c.interval) :
    c.interval = c.interval / nanosPerMilli * nanosPerMilli :=
  (Nat.div_mul_cancel h).symm

theorem dvd_interval_ofTimes (timeout : Nat) {interval : Nat} (h : nanosPerMilli ∣ interval) :
    nanosPerMilli ∣ (ofTimes timeout interval).interval := by
  change nanosPerMilli ∣ max interval nanosPerMilli
  rcases max_choice interval nanosPerMilli with hmax | hmax
  · rwa [hmax]
  · rw [hmax]

theorem waits_le_timeout (h : nanosPerMilli ∣ c.interval) :
    (c.maxAttempts - 1) * c.interval ≤ c.timeout := by
  obtain ⟨t, ht⟩ : ∃ t, c.timeout / nanosPerMilli = t := ⟨_, rfl⟩
  obtain ⟨i, hi⟩ : ∃ i, c.interval / nanosPerMilli = i := ⟨_, rfl⟩
  have hone : 1 ≤ i := hi ▸ c.one_le_millis
  have hmillis : (c.maxAttempts - 1) * i ≤ t := by
    by_cases hn : c.maxAttempts = 1
    · simp [hn]
    · have hle : c.maxAttempts ≤ (t + i - 1) / i := by
        rw [maxAttempts_eq, wanted, Nat.ceilDiv_eq_add_pred_div, ht, hi] at hn ⊢
        omega
      have hmul := (Nat.le_div_iff_mul_le hone).mp hle
      rw [Nat.sub_mul]
      omega
  calc (c.maxAttempts - 1) * c.interval
      = (c.maxAttempts - 1) * i * nanosPerMilli := by
        rw [interval_eq h, hi, Nat.mul_assoc]
    _ ≤ t * nanosPerMilli := Nat.mul_le_mul_right _ hmillis
    _ ≤ c.timeout := ht ▸ Nat.div_mul_le_self _ _

/-- An interval for each attempt covers the timeout, as long as as many attempts as it asks for
can be counted. -/
theorem timeout_le_intervals (h : nanosPerMilli ∣ c.interval) (hwanted : c.wanted ≤ 2 ^ 64 - 1) :
    c.timeout / nanosPerMilli * nanosPerMilli ≤ c.maxAttempts * c.interval := by
  have hle : c.wanted ≤ c.maxAttempts := by
    rw [maxAttempts_eq]
    omega
  have hcover : c.timeout / nanosPerMilli ≤ c.interval / nanosPerMilli * c.maxAttempts :=
    (ceilDiv_le_iff_le_mul c.one_le_millis).mp hle
  calc c.timeout / nanosPerMilli * nanosPerMilli
      ≤ c.interval / nanosPerMilli * c.maxAttempts * nanosPerMilli :=
        Nat.mul_le_mul_right _ hcover
    _ = c.maxAttempts * c.interval := by
        conv_rhs => rw [interval_eq h]
        rw [Nat.mul_comm c.maxAttempts, Nat.mul_right_comm]

end PollConfig

-- ---------------------------------------------------------------------------
-- Waits
-- ---------------------------------------------------------------------------

def Event.waits (events : List Event) : Nat :=
  (events.map fun event => match event with
    | .asked _ => 0
    | .waited nanoseconds => nanoseconds).sum

namespace Client

variable {signature : String} {interval attempts : Nat} {reply : Nat → Except WalletError Json}
variable {state : Confirmation} {events : List Event}

theorem waits_rounds (signature : String) (interval count : Nat) :
    Event.waits (rounds signature interval count) = (count - 1) * interval := by
  induction count with
  | zero => simp [rounds, Event.waits]
  | succ count ih =>
    cases count with
    | zero => simp [rounds, Event.waits]
    | succ count =>
      rw [Nat.add_sub_cancel] at ih ⊢
      have hcons : Event.waits (rounds signature interval (count + 2)) =
          interval + Event.waits (rounds signature interval (count + 1)) := by
        rw [rounds_succ_succ]
        simp [Event.waits]
      rw [hcons, ih, Nat.succ_mul, Nat.add_comm]

theorem PollEnds.waits_le (h : PollEnds signature interval reply attempts state events) :
    Event.waits events ≤ (attempts - 1) * interval := by
  cases h with
  | settled hlt _ _ =>
    rw [waits_rounds]
    exact Nat.mul_le_mul_right _ (by omega)
  | exhausted _ => exact Nat.le_of_eq (waits_rounds ..)

theorem PollEnds.waits_eq (h : PollEnds signature interval reply attempts state events)
    (hstate : state = .timedOut) : Event.waits events = (attempts - 1) * interval := by
  cases h with
  | settled _ hsettles _ => exact absurd hstate hsettles.ne_timedOut
  | exhausted _ => exact waits_rounds ..

theorem waits_waitForConfirmation (signature : String) (config : PollConfig)
    (node : ScriptedNode) :
    let run := waitForConfirmation signature config (⟨node, []⟩ : Recorded ScriptedNode)
    Event.waits run.2.events ≤ (config.maxAttempts - 1) * config.interval ∧
    (run.1 = .timedOut →
      Event.waits run.2.events = (config.maxAttempts - 1) * config.interval) := by
  intro run
  obtain ⟨state, events, hends, hrun⟩ := pollTimes_ends signature config.interval
    config.maxAttempts (⟨node, []⟩ : Recorded ScriptedNode)
  have hstate : run.1 = state := congrArg Prod.fst hrun
  have hevents : run.2.events = events := by
    rw [show run.2 = _ from congrArg Prod.snd hrun, Recorded.events_after, List.nil_append]
  rw [hstate, hevents]
  exact ⟨hends.waits_le, hends.waits_eq⟩

end Client

namespace PollConfig

/-- The number of attempts for a timeout and an interval of whole milliseconds is found without
an overflow. A poll that uses them up waits just short of its timeout: one interval less than
there are attempts is within it, and an interval for each would cover its milliseconds, unless
they ask for more attempts than 64 bits count. The polls of all configurations are of this
kind. -/
theorem budget_covers_timeout (timeout interval : Duration)
    (hwhole : nanosPerMilli ∣ interval.nanoseconds) :
    let config := ofTimes timeout.nanoseconds interval.nanoseconds
    let n := config.maxAttempts
    config.interval = max interval.nanoseconds nanosPerMilli ∧
    config.attempts128? = some n ∧ 1 ≤ n ∧
    (∀ (signature : String) (node : ScriptedNode),
      let run := Client.waitForConfirmation signature config (⟨node, []⟩ : Recorded ScriptedNode)
      Event.waits run.2.events ≤ (n - 1) * config.interval ∧
      (run.1 = .timedOut → Event.waits run.2.events = (n - 1) * config.interval)) ∧
    (n - 1) * config.interval ≤ timeout.nanoseconds ∧
    (timeout.nanoseconds / nanosPerMilli * nanosPerMilli ≤ n * config.interval ∨
      n = 2 ^ 64 - 1 ∧ 2 ^ 64 - 1 < config.wanted) ∧
    ∀ settings : Config, ∃ airdropTimeout transferTimeout pollInterval : Duration,
      nanosPerMilli ∣ pollInterval.nanoseconds ∧
      settings.airdropPoll = ofTimes airdropTimeout.nanoseconds pollInterval.nanoseconds ∧
      settings.transferPoll = ofTimes transferTimeout.nanoseconds pollInterval.nanoseconds := by
  intro config n
  have hconfig : nanosPerMilli ∣ config.interval := dvd_interval_ofTimes _ hwhole
  have hinterval : config.interval < 2 ^ 64 * nanosPerSecond :=
    Nat.max_lt.mpr ⟨interval.nanoseconds_lt, by decide⟩
  have htimeout : timeout.nanoseconds = config.timeout := rfl
  rw [htimeout]
  refine ⟨rfl, attempts128?_eq timeout.nanoseconds_lt hinterval, config.one_le_maxAttempts,
    fun signature node => Client.waits_waitForConfirmation signature config node,
    waits_le_timeout hconfig, ?_, ?_⟩
  · rcases Nat.lt_or_ge (2 ^ 64 - 1) config.wanted with hmany | hfew
    · have hclamped : config.maxAttempts = 2 ^ 64 - 1 := maxAttempts_of_lt_wanted hmany
      exact .inr ⟨hclamped, hmany⟩
    · exact .inl (timeout_le_intervals hconfig hfew)
  · intro settings
    refine ⟨.ofSeconds settings.airdropTimeoutSecs, .ofSeconds settings.transferTimeoutSecs,
      .ofMillis settings.pollIntervalMs, ?_, ?_, ?_⟩
    · rw [Duration.nanoseconds_ofMillis]
      exact Nat.dvd_mul_left _ _
    · rw [Duration.nanoseconds_ofSeconds, Duration.nanoseconds_ofMillis]
      rfl
    · rw [Duration.nanoseconds_ofSeconds, Duration.nanoseconds_ofMillis]
      rfl

/-- An interval of zero is raised to a millisecond, of which two and a half get two attempts. -/
theorem budget_covers_timeout_raised :
    nanosPerMilli ∣ (Duration.ofMillis 0).nanoseconds ∧
    ∃ timeout : Duration, timeout.nanoseconds = 2500001 ∧
      (ofTimes timeout.nanoseconds (Duration.ofMillis 0).nanoseconds).attempts128? = some 2 ∧
      (2 - 1) * nanosPerMilli ≤ timeout.nanoseconds ∧
      timeout.nanoseconds / nanosPerMilli * nanosPerMilli ≤ 2 * nanosPerMilli := by
  have hwhole : nanosPerMilli ∣ (Duration.ofMillis 0).nanoseconds := by decide
  let timeout : Duration := ⟨0, 2500001, by decide⟩
  obtain ⟨hinterval, hwords, -, -, hwaits, hcovers, -⟩ :=
    budget_covers_timeout timeout (.ofMillis 0) hwhole
  have hcount :
      (ofTimes timeout.nanoseconds (Duration.ofMillis 0).nanoseconds).maxAttempts = 2 := by
    decide
  have hraised : max (Duration.ofMillis 0).nanoseconds nanosPerMilli = nanosPerMilli := by decide
  rw [hcount] at hwords
  rw [hcount, hinterval, hraised] at hwaits hcovers
  exact ⟨hwhole, timeout, by decide, hwords, hwaits, hcovers.resolve_right nofun⟩

end PollConfig

end SlotWallet
