import SlotWallet.Proofs.SlotFiles
import SlotWallet.Proofs.SlotHistory

/-!
# Modes of the slots' files

A slot's file gets its mode from what makes it, the store or something else, and keeps it
through every write until it is removed (`SlotDirectory.Shows.history`). A store that
succeeds leaves a private file exactly where no other one was there (`private_of_store`).
-/

namespace SlotWallet

open FileTree (HeldFile)

-- ---------------------------------------------------------------------------
-- Histories
-- ---------------------------------------------------------------------------

/-- What happens to the slots' files, through the store and past it. -/
inductive FileStep where
  | perform (operation : SlotOperation)
  | overwrite (slot : Slot) (contents : Bytes)
  | discard (slot : Slot)

inductive FileEvent where
  | performed (event : SlotEvent)
  | overwritten (slot : Slot)
  | discarded (slot : Slot)

namespace SlotDirectory

def overwrite (d : SlotDirectory) (slot : Slot) (contents : Bytes) : SlotDirectory :=
  let files := (d.files.makeDirectories d.path).2
  match files.write (d.slotPath slot) FileTree.sharedMode contents with
  | .ok written => ⟨d.path, written⟩
  | .error _ => ⟨d.path, files⟩

def discard (d : SlotDirectory) (slot : Slot) : SlotDirectory :=
  match d.files.removeFile (d.slotPath slot) with
  | .ok removed => ⟨d.path, removed⟩
  | .error _ => d

def change (d : SlotDirectory) : FileStep → FileEvent × SlotDirectory
  | .perform operation =>
    let (answer, d) := operation.perform d
    (.performed ⟨operation, answer⟩, d)
  | .overwrite slot contents => (.overwritten slot, d.overwrite slot contents)
  | .discard slot => (.discarded slot, d.discard slot)

def runFiles (d : SlotDirectory) : List FileStep → List FileEvent × SlotDirectory
  | [] => ([], d)
  | step :: rest =>
    let (event, d) := d.change step
    let (events, d) := d.runFiles rest
    (event :: events, d)

end SlotDirectory

/-- The mode of a slot's file after an event: a file keeps its mode when it is written
again. -/
def FileEvent.mode? (slot : Slot) (mode : Option Nat) : FileEvent → Option Nat
  | .performed event =>
    if (event.written? slot).isSome then some (mode.getD FileTree.privateMode) else mode
  | .overwritten target => if target = slot then some (mode.getD FileTree.sharedMode) else mode
  | .discarded target => if target = slot then none else mode

-- ---------------------------------------------------------------------------
-- Steps
-- ---------------------------------------------------------------------------

namespace SlotDirectory.Shows

variable {d : SlotDirectory} {held : Slot → Option HeldFile}

theorem map_mode_update {slot target : Slot} {file : Option HeldFile} :
    (Function.update held target file slot).map HeldFile.mode =
      if target = slot then file.map HeldFile.mode else (held slot).map HeldFile.mode := by
  by_cases h : target = slot
  · rw [if_pos h, h, Function.update_self]
  · rw [if_neg h, Function.update_of_ne (Ne.symm h)]

theorem elim_mode (file : Option HeldFile) (mode : Nat) :
    file.elim mode HeldFile.mode = (file.map HeldFile.mode).getD mode := by
  cases file <;> rfl

theorem length_le_iff {after : SlotDirectory} {target : Slot} {payload : Bytes}
    {result : Except WalletError Unit} (h : d.Shows held)
    (hstore : d.store target payload = (result, after)) :
    payload.length ≤ 255 ↔ result = .ok () := by
  constructor
  · intro hfits
    obtain ⟨stored, hok, -⟩ := h.store target hfits
    exact (Prod.mk.inj (hstore.symm.trans hok)).1
  · rintro rfl
    refine Nat.not_lt.mp fun hlong => ?_
    exact nomatch (Prod.mk.inj (hstore.symm.trans (store_of_long d target hlong))).1

theorem perform {operation : SlotOperation} {answer : SlotAnswer} {after : SlotDirectory}
    (h : d.Shows held) (hp : operation.perform d = (answer, after)) :
    ∃ held', after.Shows held' ∧
      ∀ slot, (held' slot).map HeldFile.mode =
        FileEvent.mode? slot ((held slot).map HeldFile.mode) (.performed ⟨operation, answer⟩) := by
  simp only [FileEvent.mode?]
  obtain ⟨target, payload, hstore, hwritten⟩ | ⟨hwritten, hkept⟩ := perform_cases hp
  · obtain ⟨stored, hstored, hshows⟩ := h.store target ((h.length_le_iff hstore).mpr rfl)
    obtain rfl : stored = after := (Prod.mk.inj (hstored.symm.trans hstore)).2
    refine ⟨_, hshows, fun slot => ?_⟩
    rw [hwritten, map_mode_update]
    by_cases htarget : target = slot
    · rw [if_pos htarget, if_pos htarget, htarget, Option.map_some, elim_mode]
      rfl
    · rw [if_neg htarget, if_neg htarget]
      rfl
  · refine ⟨held, ?_, fun slot => by rw [hwritten]; rfl⟩
    obtain rfl | ⟨target, payload, fault, hstore⟩ := hkept
    · exact h
    · have hlong : 255 < payload.length := by
        refine Nat.lt_of_not_le fun hfits => ?_
        exact nomatch (h.length_le_iff hstore).mp hfits
      obtain rfl : d = after :=
        (Prod.mk.inj ((store_of_long d target hlong).symm.trans hstore)).2
      exact h

theorem overwrite (h : d.Shows held) (slot : Slot) (contents : Bytes) :
    (d.overwrite slot contents).Shows (Function.update held slot
      (some ⟨(held slot).elim FileTree.sharedMode HeldFile.mode, contents⟩)) := by
  obtain ⟨files, changed, hmake, hwrite, hshows⟩ := h.write slot FileTree.sharedMode contents
  simp only [SlotDirectory.overwrite, hmake, hwrite]
  exact hshows

theorem discard (h : d.Shows held) (slot : Slot) :
    (d.discard slot).Shows (Function.update held slot none) := by
  unfold SlotDirectory.discard
  cases hfile : held slot with
  | some file =>
    obtain ⟨changed, hremove, hshows⟩ := h.removeFile hfile
    rw [hremove]
    exact hshows
  | none =>
    have hremove : d.files.removeFile (d.slotPath slot) = .error .notFound := by
      rw [FileTree.removeFile, h.placeOf_none hfile]
      rfl
    rw [hremove, ← hfile, Function.update_eq_self]
    exact h

theorem change (h : d.Shows held) (step : FileStep) :
    ∃ held', (d.change step).2.Shows held' ∧
      ∀ slot, (held' slot).map HeldFile.mode =
        (d.change step).1.mode? slot ((held slot).map HeldFile.mode) := by
  cases step with
  | perform operation => exact h.perform rfl
  | overwrite target contents =>
    refine ⟨_, h.overwrite target contents, fun slot => ?_⟩
    rw [map_mode_update]
    simp only [SlotDirectory.change, FileEvent.mode?]
    by_cases htarget : target = slot
    · rw [if_pos htarget, if_pos htarget, htarget, Option.map_some, elim_mode]
    · rw [if_neg htarget, if_neg htarget]
  | discard target =>
    refine ⟨_, h.discard target, fun slot => ?_⟩
    rw [map_mode_update]
    rfl

theorem history (h : d.Shows held) (steps : List FileStep) :
    ∃ held', (d.runFiles steps).2.Shows held' ∧
      ∀ slot, (held' slot).map HeldFile.mode =
        (d.runFiles steps).1.foldl (FileEvent.mode? slot) ((held slot).map HeldFile.mode) := by
  induction steps generalizing d held with
  | nil => exact ⟨held, h, fun _ => rfl⟩
  | cons step rest ih =>
    obtain ⟨held', hnext, hmodes⟩ := h.change step
    obtain ⟨held'', hlast, hmodes'⟩ := ih hnext
    refine ⟨held'', hlast, fun slot => ?_⟩
    rw [hmodes', hmodes]
    rfl

end SlotDirectory.Shows

-- ---------------------------------------------------------------------------
-- Stores after a history
-- ---------------------------------------------------------------------------

/-- Where nothing else makes a slot's file, its mode is private as long as it is there. -/
theorem FileEvent.private_of_foldl {slot : Slot} {events : List FileEvent} {mode : Option Nat}
    (hevents : ∀ event ∈ events, event ≠ .overwritten slot)
    (hmode : ∀ m ∈ mode, m = FileTree.privateMode) :
    ∀ m ∈ events.foldl (mode? slot) mode, m = FileTree.privateMode := by
  induction events generalizing mode with
  | nil => exact hmode
  | cons event rest ih =>
    refine ih (fun other hother => hevents other (List.mem_cons_of_mem event hother)) ?_
    have hevent := hevents event List.mem_cons_self
    intro m hm
    cases event with
    | performed done =>
      simp only [mode?] at hm
      split at hm
      · cases hkept : mode with
        | none => simpa [hkept, eq_comm] using hm
        | some kept => simpa [hkept, hmode kept hkept, eq_comm] using hm
      · exact hmode m hm
    | overwritten target =>
      have htarget : target ≠ slot := fun heq => hevent (heq ▸ rfl)
      rw [mode?, if_neg htarget] at hm
      exact hmode m hm
    | discarded target =>
      simp only [mode?] at hm
      split at hm
      · contradiction
      · exact hmode m hm

namespace SlotDirectory

/-- After every history a store that succeeds leaves a slot's file with its payload and with
the mode that the file had by then, or a private one where there was none. So the file is
private exactly if no other one was there, as is so where nothing but the store makes files. -/
theorem private_of_store {d after : SlotDirectory} {held : Slot → Option HeldFile} {slot : Slot}
    {payload : Bytes} (h : d.Shows held) (steps : List FileStep)
    (hs : (d.runFiles steps).2.store slot payload = (.ok (), after)) :
    let before := (d.runFiles steps).1.foldl (FileEvent.mode? slot) ((held slot).map HeldFile.mode)
    after.file? slot =
      some ⟨before.getD FileTree.privateMode, UInt8.ofNat payload.length :: payload⟩ ∧
    ((after.file? slot).map HeldFile.mode = some FileTree.privateMode ↔
      ∀ mode ∈ before, mode = FileTree.privateMode) ∧
    ((∀ event ∈ (d.runFiles steps).1, event ≠ .overwritten slot) →
      (∀ file ∈ held slot, file.mode = FileTree.privateMode) →
      (after.file? slot).map HeldFile.mode = some FileTree.privateMode) := by
  obtain ⟨held', hshows, hmodes⟩ := h.history steps
  rw [← hmodes]
  obtain ⟨stored, hstored, hafter⟩ := hshows.store slot ((hshows.length_le_iff hs).mpr rfl)
  obtain rfl : stored = after := (Prod.mk.inj (hstored.symm.trans hs)).2
  have hfile : stored.file? slot = some ⟨((held' slot).map HeldFile.mode).getD
      FileTree.privateMode, UInt8.ofNat payload.length :: payload⟩ := by
    rw [hafter.file?_eq, Function.update_self, Shows.elim_mode]
  have hprivate : (stored.file? slot).map HeldFile.mode = some FileTree.privateMode ↔
      ∀ mode ∈ (held' slot).map HeldFile.mode, mode = FileTree.privateMode := by
    rw [hfile]
    cases held' slot <;> simp
  refine ⟨hfile, hprivate, fun hevents hheld => hprivate.mpr ?_⟩
  rw [hmodes]
  refine FileEvent.private_of_foldl hevents ?_
  simpa using hheld

/-- A file that was made past the store, removed, and stored again. -/
theorem private_of_store_discarded :
    ∃ after, ((runFiles ⟨"slots", ⟨[], []⟩⟩ [.overwrite ⟨3⟩ [1], .discard ⟨3⟩]).2.store ⟨3⟩ [2] =
        (.ok (), after)) ∧
      after.file? ⟨3⟩ = some ⟨FileTree.privateMode, [1, 2]⟩ := by
  have hs : (runFiles ⟨"slots", ⟨[], []⟩⟩ [.overwrite ⟨3⟩ [1], .discard ⟨3⟩]).2.store ⟨3⟩ [2] =
      (.ok (), _) := rfl
  exact ⟨_, hs, (private_of_store fresh_slots _ hs).1⟩

/-- A file that was made past the store stays open to all through a store. -/
theorem shared_after_store :
    ((runFiles ⟨"slots", ⟨[], []⟩⟩ [.overwrite ⟨3⟩ [1, 1]]).2.store ⟨3⟩ [0xaa, 0xbb]).1 = .ok () ∧
      (((runFiles ⟨"slots", ⟨[], []⟩⟩ [.overwrite ⟨3⟩ [1, 1]]).2.store ⟨3⟩ [0xaa, 0xbb]).2.file?
        ⟨3⟩).map HeldFile.mode = some 0o644 :=
  ⟨rfl, rfl⟩

end SlotDirectory

end SlotWallet
