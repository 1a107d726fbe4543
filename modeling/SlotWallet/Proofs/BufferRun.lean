import SlotWallet.Proofs.Success
import SlotWallet.Transfer.WireBuffer

/-!
# Runs of a bounded buffer

A step on a buffer appends all of its bytes or, where they do not fit, nothing
(`bytes_perform`). So a buffer holds the bytes of the steps that succeeded, and the others
might as well not have been taken (`run_holds`).
-/

namespace SlotWallet.WireBuffer

-- ---------------------------------------------------------------------------
-- Steps and runs
-- ---------------------------------------------------------------------------

inductive Step where
  | push (byte : UInt8)
  | extend (data : Bytes)
  | pushLength (value : Nat)

def Step.data : Step → Bytes
  | .push byte => [byte]
  | .extend data => data
  | .pushLength value => CompactLength.encode value

/-- What a step came to, and what the buffer held after it. -/
structure Event where
  step : Step
  result : Except InputFault Unit
  contents : Bytes

namespace Event

def succeeded (event : Event) : Bool := event.result.isOk

@[simp] theorem succeeded_ok (step : Step) (contents : Bytes) :
    succeeded ⟨step, .ok (), contents⟩ = true := rfl

@[simp] theorem succeeded_error (step : Step) (fault : InputFault) (contents : Bytes) :
    succeeded ⟨step, .error fault, contents⟩ = false := rfl

def written (events : List Event) : Bytes :=
  (events.filter succeeded).flatMap (·.step.data)

@[simp] theorem written_nil : written [] = [] := rfl

@[simp] theorem written_cons (event : Event) (events : List Event) :
    written (event :: events) =
      (if event.succeeded then event.step.data else []) ++ written events := by
  cases h : event.succeeded <;> simp [written, h]

theorem written_append (before after : List Event) :
    written (before ++ after) = written before ++ written after := by
  simp [written]

def held (events : List Event) : Bytes :=
  (events.getLast?.map contents).getD []

end Event

def attempt (b : WireBuffer) : Step → Except InputFault Unit × WireBuffer
  | .push byte => b.extendByte byte
  | .extend data => b.extend data
  | .pushLength value => b.extendLength value

def perform (b : WireBuffer) (step : Step) : Event × WireBuffer :=
  let (result, next) := b.attempt step
  (⟨step, result, next.bytes⟩, next)

def run (b : WireBuffer) : List Step → List Event × WireBuffer
  | [] => ([], b)
  | step :: rest =>
    let (event, next) := b.perform step
    let (events, last) := next.run rest
    (event :: events, last)

open WireBuffer.Event (written held written_append)

-- ---------------------------------------------------------------------------
-- One step
-- ---------------------------------------------------------------------------

section Step

variable (b : WireBuffer) (step : Step)

theorem attempt_eq : b.attempt step = b.extend step.data := by
  cases step <;> rfl

/-- All that a step can do. -/
theorem perform_cases :
    (∃ h : b.bytes.length + step.data.length ≤ b.capacity,
      b.perform step = (⟨step, .ok (), b.bytes ++ step.data⟩,
        ⟨b.capacity, b.bytes ++ step.data, by simpa using h⟩)) ∨
    (b.capacity < b.bytes.length + step.data.length ∧
      b.perform step =
        (⟨step, .error (.bufferFull step.data.length b.capacity), b.bytes⟩, b)) := by
  rw [perform, attempt_eq]
  rcases Nat.lt_or_ge b.capacity (b.bytes.length + step.data.length) with hover | hfits
  · rw [extend_of_lt hover]
    exact .inr ⟨hover, rfl⟩
  · rw [extend_of_le hfits]
    exact .inl ⟨hfits, rfl⟩

theorem step_perform : (b.perform step).1.step = step := rfl

theorem contents_perform : (b.perform step).1.contents = (b.perform step).2.bytes := rfl

theorem capacity_perform : (b.perform step).2.capacity = b.capacity := by
  rcases b.perform_cases step with ⟨_, hstep⟩ | ⟨-, hstep⟩ <;> rw [hstep]

theorem bytes_perform : (b.perform step).2.bytes = b.bytes ++ written [(b.perform step).1] := by
  rcases b.perform_cases step with ⟨_, hstep⟩ | ⟨-, hstep⟩ <;> simp [hstep]

theorem perform_error (fault : InputFault) :
    (b.perform step).1.result = .error fault ↔
      b.capacity < b.bytes.length + step.data.length ∧
        fault = .bufferFull step.data.length b.capacity := by
  rcases b.perform_cases step with ⟨hfits, hstep⟩ | ⟨hover, hstep⟩
  · simp [hstep, Nat.not_lt.mpr hfits]
  · simp [hstep, hover, eq_comm]

theorem perform_of_failed (h : (b.perform step).1.succeeded = false) : (b.perform step).2 = b := by
  rcases b.perform_cases step with ⟨_, hstep⟩ | ⟨-, hstep⟩
  · rw [hstep] at h
    contradiction
  · rw [hstep]

end Step

-- ---------------------------------------------------------------------------
-- Runs
-- ---------------------------------------------------------------------------

theorem run_cons (b : WireBuffer) (step : Step) (rest : List Step) :
    b.run (step :: rest) =
      ((b.perform step).1 :: ((b.perform step).2.run rest).1,
        ((b.perform step).2.run rest).2) := rfl

theorem steps_run (b : WireBuffer) (steps : List Step) :
    (b.run steps).1.map (·.step) = steps := by
  induction steps generalizing b with
  | nil => rfl
  | cons step rest ih => simp [run_cons, step_perform, ih]

theorem capacity_run (b : WireBuffer) (steps : List Step) :
    (b.run steps).2.capacity = b.capacity := by
  induction steps generalizing b with
  | nil => rfl
  | cons step rest ih => rw [run_cons, ih, capacity_perform]

theorem bytes_run (b : WireBuffer) (steps : List Step) :
    (b.run steps).2.bytes = b.bytes ++ written (b.run steps).1 := by
  induction steps generalizing b with
  | nil => simp [run]
  | cons step rest ih => simp [run_cons, ih, bytes_perform, List.append_assoc]

theorem contents_run (b : WireBuffer) (steps : List Step) :
    ((b.run steps).1.getLast?.map Event.contents).getD b.bytes = (b.run steps).2.bytes := by
  induction steps generalizing b with
  | nil => rfl
  | cons step rest ih =>
    rw [run_cons, ← ih, List.getLast?_cons, ← contents_perform]
    cases ((b.perform step).2.run rest).1.getLast? <;> rfl

theorem run_split {b : WireBuffer} {steps : List Step} {before after : List Event} {event : Event}
    (h : (b.run steps).1 = before ++ event :: after) :
    ∃ middle, b.run (before.map (·.step)) = (before, middle) ∧
      (middle.perform event.step).1 = event := by
  induction before generalizing b steps with
  | nil =>
    cases steps with
    | nil => contradiction
    | cons step rest =>
      obtain ⟨rfl, -⟩ := List.cons.inj h
      exact ⟨b, rfl, rfl⟩
  | cons first before ih =>
    cases steps with
    | nil => contradiction
    | cons step rest =>
      rw [run_cons] at h
      obtain ⟨hfirst, hrest⟩ := List.cons.inj h
      obtain ⟨middle, hrun, hevent⟩ := ih hrest
      refine ⟨middle, ?_, hevent⟩
      rw [List.map_cons, ← hfirst, step_perform, run_cons, hrun]

/-- The steps that succeeded do so without the others too, and lead to the same buffer. -/
theorem run_succeeded (b : WireBuffer) (steps : List Step) :
    b.run (((b.run steps).1.filter Event.succeeded).map (·.step)) =
      ((b.run steps).1.filter Event.succeeded, (b.run steps).2) := by
  induction steps generalizing b with
  | nil => rfl
  | cons step rest ih =>
    rw [run_cons]
    cases h : (b.perform step).1.succeeded with
    | true => rw [List.filter_cons_of_pos h, List.map_cons, step_perform, run_cons, ih]
    | false =>
      rw [List.filter_cons_of_neg (by simp [h]), perform_of_failed b step h]
      exact ih b

-- ---------------------------------------------------------------------------
-- Runs from nothing
-- ---------------------------------------------------------------------------

theorem run_empty_split {capacity : Nat} {steps : List Step} {before after : List Event}
    {event : Event} (h : ((empty capacity).run steps).1 = before ++ event :: after) :
    ∃ middle : WireBuffer, (middle.perform event.step).1 = event ∧ middle.capacity = capacity ∧
      middle.bytes = written before ∧ middle.bytes = held before := by
  obtain ⟨middle, hrun, hevent⟩ := run_split h
  have hcapacity := capacity_run (empty capacity) (before.map (·.step))
  have hbytes := bytes_run (empty capacity) (before.map (·.step))
  have hcontents := contents_run (empty capacity) (before.map (·.step))
  rw [hrun] at hcapacity hbytes hcontents
  exact ⟨middle, hevent, hcapacity, hbytes, hcontents.symm⟩

/-- After each step an empty buffer has come to hold the bytes of the steps that succeeded, and
never more than its capacity. A step fails exactly if its bytes do not fit behind what is held,
and what is held then stays; the other steps would have come to the same without it. -/
theorem run_holds (capacity : Nat) (steps : List Step) :
    let (events, last) := (empty capacity).run steps
    events.map (·.step) = steps ∧ last.bytes = written events ∧
    (∀ before event after, events = before ++ event :: after →
      held before = written before ∧ event.contents = written (before ++ [event]) ∧
      event.contents.length ≤ capacity ∧
      (∀ e, event.result.mapError WalletError.invalidInput = .error e ↔
        capacity < (held before).length + event.step.data.length ∧
          e = .invalidInput (.bufferFull event.step.data.length capacity)) ∧
      (event.succeeded = false → event.contents = held before)) ∧
    (empty capacity).run ((events.filter Event.succeeded).map (·.step)) =
      (events.filter Event.succeeded, last) := by
  refine ⟨steps_run _ steps, bytes_run _ steps, ?_, run_succeeded _ steps⟩
  intro before event after hsplit
  obtain ⟨middle, hevent, hcapacity, hwritten, hheld⟩ := run_empty_split hsplit
  have hcontents : event.contents = (middle.perform event.step).2.bytes := by
    rw [← contents_perform, hevent]
  refine ⟨hheld.symm.trans hwritten, ?_, ?_, ?_, ?_⟩
  · rw [hcontents, bytes_perform, hevent, hwritten, written_append]
  · rw [hcontents, ← hcapacity, ← capacity_perform middle event.step]
    exact (middle.perform event.step).2.length_le
  · intro e
    have herror (fault : InputFault) := middle.perform_error event.step fault
    rw [hevent, hcapacity, hheld] at herror
    simp only [mapError_error, herror]
    constructor
    · rintro ⟨fault, ⟨hover, rfl⟩, rfl⟩
      exact ⟨hover, rfl⟩
    · rintro ⟨hover, rfl⟩
      exact ⟨_, ⟨hover, rfl⟩, rfl⟩
  · intro hfailed
    rw [← hevent] at hfailed
    rw [hcontents, perform_of_failed middle event.step hfailed, hheld]

/-- Three bytes do not fit behind two of four; a length of two bytes then does, and nothing after
it. -/
theorem run_holds_full :
    let first : Event := ⟨.extend [1, 2], .ok (), [1, 2]⟩
    let refused : Event := ⟨.extend [3, 4, 5], .error (.bufferFull 3 4), [1, 2]⟩
    let length : Event := ⟨.pushLength 128, .ok (), [1, 2, 128, 1]⟩
    let late : Event := ⟨.push 6, .error (.bufferFull 1 4), [1, 2, 128, 1]⟩
    ((empty 4).run [.extend [1, 2], .extend [3, 4, 5], .pushLength 128, .push 6]).1 =
        [first] ++ refused :: [length, late] ∧
      4 < (held [first]).length + 3 ∧ refused.contents = held [first] := by
  intro first refused length late
  have hlength : CompactLength.encode 128 = [128, 1] := by cbv
  have hevents :
      ((empty 4).run [.extend [1, 2], .extend [3, 4, 5], .pushLength 128, .push 6]).1 =
        [first] ++ refused :: [length, late] := by
    simp [run, perform, attempt_eq, extend, empty, Step.data, hlength, first, refused, length, late]
  obtain ⟨-, -, hall, -⟩ :=
    run_holds 4 [.extend [1, 2], .extend [3, 4, 5], .pushLength 128, .push 6]
  obtain ⟨-, -, -, herror, hkept⟩ := hall _ _ _ hevents
  exact ⟨hevents, ((herror _).mp rfl).1, hkept rfl⟩

end SlotWallet.WireBuffer
