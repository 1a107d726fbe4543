import SlotWallet.Proofs.SlotFiles
import SlotWallet.Proofs.SlotHistory

/-!
# Slot files behave as a store in memory

Two stores whose states answer alike, and stay so through every write, cannot be told apart
by a run (`SlotStore.Simulation.run`). A directory whose files are what the memory store
holds is such a state, so from a fresh directory slot files answer as memory does
(`SlotDirectory.refines_memory`).
-/

namespace SlotWallet

open FileTree (HeldFile)

-- ---------------------------------------------------------------------------
-- Simulations
-- ---------------------------------------------------------------------------

/-- Related states answer alike and stay related. -/
structure SlotStore.Simulation {σ τ : Type} [SlotStore σ] [SlotStore τ] (Related : σ → τ → Prop) :
    Prop where
  fetch : ∀ {s t}, Related s t → ∀ slot, SlotStore.fetch s slot = SlotStore.fetch t slot
  store : ∀ {s t}, Related s t → ∀ slot payload,
    (SlotStore.store s slot payload).1 = (SlotStore.store t slot payload).1 ∧
      Related (SlotStore.store s slot payload).2 (SlotStore.store t slot payload).2

namespace SlotStore.Simulation

variable {σ τ : Type} [SlotStore σ] [SlotStore τ] {Related : σ → τ → Prop} {s : σ} {t : τ}

theorem perform (h : Simulation Related) (hst : Related s t) (operation : SlotOperation) :
    (operation.perform s).1 = (operation.perform t).1 ∧
      Related (operation.perform s).2 (operation.perform t).2 := by
  cases operation with
  | create slot password iterations source =>
    simp only [SlotOperation.perform, Wallet.create]
    split
    · exact ⟨rfl, hst⟩
    · rename_i key _ _
      obtain ⟨hanswer, hrelated⟩ := h.store hst slot key.payload
      simp only [StoredKey.save]
      generalize SlotStore.store s slot key.payload = stored at hanswer hrelated
      generalize SlotStore.store t slot key.payload = stored' at hanswer hrelated
      obtain ⟨result, s'⟩ := stored
      obtain ⟨result', t'⟩ := stored'
      obtain rfl : result = result' := hanswer
      cases result <;> exact ⟨rfl, hrelated⟩
  | save slot key =>
    obtain ⟨hanswer, hrelated⟩ := h.store hst slot key.payload
    exact ⟨congrArg SlotAnswer.stored hanswer, hrelated⟩
  | store slot payload =>
    obtain ⟨hanswer, hrelated⟩ := h.store hst slot payload
    exact ⟨congrArg SlotAnswer.stored hanswer, hrelated⟩
  | fetch slot => exact ⟨congrArg SlotAnswer.fetched (h.fetch hst slot), hst⟩

theorem run (h : Simulation Related) (hst : Related s t) (operations : List SlotOperation) :
    (runSlots s operations).1 = (runSlots t operations).1 ∧
      Related (runSlots s operations).2 (runSlots t operations).2 := by
  induction operations generalizing s t with
  | nil => exact ⟨rfl, hst⟩
  | cons operation rest ih =>
    obtain ⟨hanswer, hnext⟩ := h.perform hst operation
    obtain ⟨hevents, hlast⟩ := ih hnext
    refine ⟨?_, hlast⟩
    rw [runSlots_cons, runSlots_cons, hanswer, hevents]

end SlotStore.Simulation

-- ---------------------------------------------------------------------------
-- Runs from nothing
-- ---------------------------------------------------------------------------

def SlotEvent.latest (slot : Slot) (events : List SlotEvent) : Except WalletError Bytes :=
  match (lastWrite? slot events).bind (·.written? slot) with
  | some payload => .ok payload
  | none => .error (.storage (.emptySlot slot.name))

theorem runSlots_split {σ : Type} [SlotStore σ] {store : σ} {operations : List SlotOperation}
    {before after : List SlotEvent} {event : SlotEvent}
    (h : (runSlots store operations).1 = before ++ event :: after) :
    ∃ middle, runSlots store (before.map SlotEvent.operation) = (before, middle) ∧
      (event.operation.perform middle).1 = event.answer := by
  induction before generalizing store operations with
  | nil =>
    cases operations with
    | nil => contradiction
    | cons operation rest =>
      obtain ⟨rfl, -⟩ := List.cons.inj h
      exact ⟨store, rfl, rfl⟩
  | cons first before ih =>
    cases operations with
    | nil => contradiction
    | cons operation rest =>
      rw [runSlots_cons] at h
      obtain ⟨hfirst, hrest⟩ := List.cons.inj h
      obtain ⟨middle, hrun, hanswer⟩ := ih hrest
      refine ⟨middle, ?_, hanswer⟩
      rw [List.map_cons, runSlots_cons, ← hfirst, hrun]

namespace MemoryStore

theorem contents_perform {before after : MemoryStore} {operation : SlotOperation}
    {answer : SlotAnswer} {slot : Slot} (h : operation.perform before = (answer, after))
    (hw : SlotEvent.written? ⟨operation, answer⟩ slot = none)
    (hempty : before.contents slot = none) : after.contents slot = none := by
  obtain ⟨target, payload, hstore, hwritten⟩ | ⟨-, rfl | ⟨target, payload, fault, hstore⟩⟩ :=
    perform_cases h
  · have hother : slot ≠ target := by
      rintro rfl
      rw [hwritten, if_pos rfl] at hw
      contradiction
    simp only [SlotStore.store, store] at hstore
    split at hstore
    · cases hstore
      rwa [contents_put_of_ne hother]
    · cases hstore
  · exact hempty
  · simp only [SlotStore.store, store] at hstore
    split at hstore
    · cases hstore
    · cases hstore
      exact hempty

theorem fetch_run_empty (operations : List SlotOperation) (slot : Slot) :
    SlotStore.fetch (runSlots empty operations).2 slot =
      SlotEvent.latest slot (runSlots empty operations).1 := by
  unfold SlotEvent.latest
  cases hw : SlotEvent.lastWrite? slot (runSlots empty operations).1 with
  | some event =>
    obtain ⟨payload, hpayload, hfetch⟩ := fetch_run hw
    rw [Option.bind_some, hpayload]
    exact hfetch
  | none =>
    have hempty : (runSlots empty operations).2.contents slot = none :=
      run_of_none (P := fun m => m.contents slot = none) contents_perform hw rfl
    simp only [SlotStore.fetch, fetch, hempty]
    rfl

theorem store_eq (m : MemoryStore) (slot : Slot) (payload : Bytes) :
    m.store slot payload =
      if payload.length ≤ 255 then (.ok (), m.put slot (UInt8.ofNat payload.length :: payload))
      else (.error (.invalidInput (.longPayload payload.length 255)), m) := by
  unfold store
  split_ifs with h
  · rw [Frame.frame_of_le h]
  · rw [Frame.frame_of_lt (Nat.lt_of_not_le h)]

end MemoryStore

-- ---------------------------------------------------------------------------
-- Files and memory
-- ---------------------------------------------------------------------------

namespace SlotDirectory

/-- The slots' files hold what the memory store holds. -/
def Mirrors (d : SlotDirectory) (m : MemoryStore) : Prop :=
  ∃ held, d.Shows held ∧ ∀ slot, m.contents slot = (held slot).map HeldFile.contents

theorem mirrors_simulation : SlotStore.Simulation Mirrors where
  fetch := by
    rintro d m ⟨held, hshows, hcontents⟩ slot
    change d.fetch slot = m.fetch slot
    rw [hshows.fetch_eq, MemoryStore.fetch, hcontents]
    cases held slot <;> rfl
  store := by
    rintro d m ⟨held, hshows, hcontents⟩ slot payload
    change (d.store slot payload).1 = (m.store slot payload).1 ∧
      Mirrors (d.store slot payload).2 (m.store slot payload).2
    rw [MemoryStore.store_eq]
    split_ifs with hfits
    · obtain ⟨after, hstore, hafter⟩ := hshows.store slot hfits
      rw [hstore]
      refine ⟨rfl, _, hafter, fun other => ?_⟩
      by_cases hother : other = slot
      · rw [hother, MemoryStore.contents_put_self, Function.update_self]
        rfl
      · rw [MemoryStore.contents_put_of_ne hother, Function.update_of_ne hother, hcontents]
    · rw [store_of_long d slot (Nat.lt_of_not_le hfits)]
      exact ⟨rfl, held, hshows, hcontents⟩

theorem Fresh.mirrors_empty {d : SlotDirectory} (h : d.Fresh) : d.Mirrors .empty :=
  ⟨_, h, fun _ => rfl⟩

/-- From a fresh directory, slot files answer every run as the memory store does. A fetch
gives what was stored last to its slot, or that the slot is empty. A payload is refused if it
is longer than 255 bytes and for nothing else, and where one is refused, both stores stay as
they are. -/
theorem refines_memory {d : SlotDirectory} (h : d.Fresh) (operations : List SlotOperation) :
    let files := runSlots d operations
    let memory := runSlots MemoryStore.empty operations
    files.1 = memory.1 ∧
    (∀ before slot answer after, files.1 = before ++ ⟨.fetch slot, answer⟩ :: after →
      answer = .fetched (SlotEvent.latest slot before)) ∧
    (∀ before slot payload answer after,
      files.1 = before ++ ⟨.store slot payload, answer⟩ :: after →
      answer = .stored (if payload.length ≤ 255 then .ok ()
        else .error (.invalidInput (.longPayload payload.length 255)))) ∧
    ∀ slot payload, 255 < payload.length →
      SlotStore.store files.2 slot payload =
        (.error (.invalidInput (.longPayload payload.length 255)), files.2) ∧
      SlotStore.store memory.2 slot payload =
        (.error (.invalidInput (.longPayload payload.length 255)), memory.2) := by
  obtain ⟨hevents, -⟩ := mirrors_simulation.run h.mirrors_empty operations
  refine ⟨hevents, ?_, ?_, ?_⟩
  · intro before slot answer after hsplit
    obtain ⟨middle, hrun, hanswer⟩ := runSlots_split (hevents.symm.trans hsplit)
    have hlatest := MemoryStore.fetch_run_empty (before.map SlotEvent.operation) slot
    rw [hrun] at hlatest
    rw [← hlatest]
    exact hanswer.symm
  · intro before slot payload answer after hsplit
    obtain ⟨middle, -, hanswer⟩ := runSlots_split (hevents.symm.trans hsplit)
    have hstored : answer = .stored (middle.store slot payload).1 := hanswer.symm
    rw [hstored, MemoryStore.store_eq]
    split_ifs <;> rfl
  · intro slot payload hlong
    refine ⟨store_of_long _ slot hlong, ?_⟩
    change MemoryStore.store _ slot payload = _
    rw [MemoryStore.store_eq, if_neg (Nat.not_le.mpr hlong)]

/-- Shorter contents in the place of longer ones, in a directory that is yet to be made. -/
theorem refines_memory_slots :
    Fresh ⟨"slots", ⟨[], []⟩⟩ ∧
      (runSlots (SlotDirectory.mk "slots" ⟨[], []⟩)
        [.fetch ⟨3⟩, .store ⟨3⟩ [1, 2], .store ⟨3⟩ [3], .fetch ⟨3⟩]).1 =
        [⟨.fetch ⟨3⟩, .fetched (.error (.storage (.emptySlot "Str3")))⟩,
          ⟨.store ⟨3⟩ [1, 2], .stored (.ok ())⟩, ⟨.store ⟨3⟩ [3], .stored (.ok ())⟩,
          ⟨.fetch ⟨3⟩, .fetched (.ok [3])⟩] := by
  obtain ⟨hevents, -⟩ := refines_memory fresh_slots
    [.fetch ⟨3⟩, .store ⟨3⟩ [1, 2], .store ⟨3⟩ [3], .fetch ⟨3⟩]
  exact ⟨fresh_slots, hevents.trans rfl⟩

end SlotDirectory

end SlotWallet
