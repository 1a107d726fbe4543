import Mathlib.Logic.Function.Basic
import SlotWallet.Proofs.SlotForm
import SlotWallet.Proofs.SlotStore

/-!
# The files of the slots

A directory shows its slots' files where it is there, or can be made, and nothing but a
file stands in the way of one (`SlotDirectory.Shows`). There a store is refused for its
length alone, and it sets one file and leaves the others (`Shows.store`). In any directory
a store that fails leaves all files, and one that succeeds leaves those of the other slots, as
long as no step up is taken from what is missing of the directory (`file?_store_error`,
`file?_store_ok`).
-/

namespace SlotWallet

open FileTree (HeldFile)

namespace SlotDirectory

def file? (d : SlotDirectory) (slot : Slot) : Option HeldFile := d.files.file? (d.slotPath slot)

/-- The slots' files, where a file can be written for each slot. A directory that is missing
has none. -/
inductive Shows (d : SlotDirectory) : (Slot → Option HeldFile) → Prop
  | there {held : Slot → Option HeldFile} : d.files.HasDirectory d.path →
      (∀ slot, d.files.HoldsAt (d.slotPath slot) (held slot)) → Shows d held
  | missing {made : FileTree} : d.files.checkDirectory d.path = .error .notFound →
      d.files.makeDirectories d.path = (.ok (), made) →
      (∀ slot, made.HoldsAt (d.slotPath slot) none) → Shows d fun _ => none

/-- Files can be written for the slots, and there are none yet. -/
def Fresh (d : SlotDirectory) : Prop := d.Shows fun _ => none

namespace Shows

variable {d : SlotDirectory} {held : Slot → Option HeldFile}

theorem opened (h : d.Shows held) :
    ∃ files, d.files.makeDirectories d.path = (.ok (), files) ∧ files.HasDirectory d.path ∧
      ∀ slot, files.HoldsAt (d.slotPath slot) (held slot) := by
  cases h with
  | there hdirectory hheld => exact ⟨d.files, hdirectory.makeDirectories_eq, hdirectory, hheld⟩
  | missing _ hmade hheld =>
    exact ⟨_, hmade, FileTree.hasDirectory_of_makeDirectories hmade, hheld⟩

theorem placeOf_none (h : d.Shows held) {slot : Slot} (hnone : held slot = none) :
    d.files.placeOf (d.slotPath slot) = .error .notFound := by
  cases h with
  | there _ hheld => exact (hnone ▸ hheld slot).placeOf_none
  | @missing made hmissing hmade hheld =>
    obtain ⟨directory, name, htarget, -⟩ := id (hheld slot)
    by_cases hd : d.path = ""
    · -- the start is never made, so it has not changed
      have hsame : d.files.makeDirectories d.path = (.ok (), d.files) := by
        rw [hd]
        rfl
      obtain rfl : d.files = made := (Prod.mk.inj (hsame.symm.trans hmade)).2
      exact (hheld slot).placeOf_none
    · exact FileTree.placeOf_missing hd slot.slash_notMem_fileName hmissing
        (FileTree.follow_of_target htarget).1

theorem lookup_eq (h : d.Shows held) (slot : Slot) :
    d.files.lookup (d.slotPath slot) =
      (held slot).elim (.error .notFound) fun file => .ok file.entry := by
  cases hfile : held slot with
  | none =>
    rw [FileTree.lookup, h.placeOf_none hfile]
    rfl
  | some file =>
    cases h with
    | there _ hheld => exact (hfile ▸ hheld slot).lookup_eq
    | missing => contradiction

theorem file?_eq (h : d.Shows held) (slot : Slot) : d.file? slot = held slot := by
  rw [file?, FileTree.file?, h.lookup_eq]
  cases held slot <;> rfl

theorem fetch_eq (h : d.Shows held) (slot : Slot) :
    d.fetch slot = (held slot).elim (.error (.storage (.emptySlot slot.name)))
      fun file => (Frame.unframe file.contents).mapError .storage := by
  rw [fetch, FileTree.read, h.lookup_eq]
  cases held slot <;> rfl

theorem update {files changed : FileTree} {slot : Slot} {file : Option HeldFile}
    (hdirectory : files.HasDirectory d.path)
    (hheld : ∀ slot, files.HoldsAt (d.slotPath slot) (held slot))
    (hset : files.SetsFile (d.slotPath slot) file changed) :
    Shows ⟨d.path, changed⟩ (Function.update held slot file) := by
  refine .there ?_ fun other => ?_
  · obtain ⟨_, _, -, hagree, -⟩ := hset
    exact hagree.hasDirectory hdirectory
  · by_cases hother : other = slot
    · rw [hother, Function.update_self]
      exact hset.holdsAt
    · rw [Function.update_of_ne hother]
      exact hset.holdsAt_join (fileName_ne_fileName hother) slot.slash_notMem_fileName
        other.slash_notMem_fileName (hheld other)

theorem write (h : d.Shows held) (slot : Slot) (mode : Nat) (contents : Bytes) :
    ∃ files changed, d.files.makeDirectories d.path = (.ok (), files) ∧
      files.write (d.slotPath slot) mode contents = .ok changed ∧
      Shows ⟨d.path, changed⟩ (Function.update held slot
        (some ⟨(held slot).elim mode HeldFile.mode, contents⟩)) := by
  obtain ⟨files, hmake, hdirectory, hheld⟩ := h.opened
  obtain ⟨changed, hwrite, hset⟩ := (hheld slot).write mode contents
  exact ⟨files, changed, hmake, hwrite, update hdirectory hheld hset⟩

theorem store (h : d.Shows held) (slot : Slot) {payload : Bytes} (hfits : payload.length ≤ 255) :
    ∃ after, d.store slot payload = (.ok (), after) ∧
      after.Shows (Function.update held slot (some
        ⟨(held slot).elim FileTree.privateMode HeldFile.mode,
          UInt8.ofNat payload.length :: payload⟩)) := by
  obtain ⟨files, changed, hmake, hwrite, hshows⟩ := h.write slot FileTree.privateMode
    (UInt8.ofNat payload.length :: payload)
  refine ⟨_, ?_, hshows⟩
  simp only [SlotDirectory.store, Frame.frame_of_le hfits, hmake]
  simp only [slotPath] at hwrite ⊢
  rw [hwrite]

theorem removeFile {slot : Slot} {file : HeldFile} (h : d.Shows held)
    (hfile : held slot = some file) :
    ∃ changed, d.files.removeFile (d.slotPath slot) = .ok changed ∧
      Shows ⟨d.path, changed⟩ (Function.update held slot none) := by
  cases h with
  | there hdirectory hheld =>
    obtain ⟨changed, hremove, hset⟩ := (hfile ▸ hheld slot).removeFile
    exact ⟨changed, hremove, update hdirectory hheld hset⟩
  | missing => contradiction

end Shows

theorem store_of_long (d : SlotDirectory) (slot : Slot) {payload : Bytes}
    (h : 255 < payload.length) :
    d.store slot payload = (.error (.invalidInput (.longPayload payload.length 255)), d) := by
  rw [store, Frame.frame_of_lt h]

theorem fresh_slots : Fresh ⟨"slots", ⟨[], []⟩⟩ := by
  have hmade : FileTree.makeDirectories ⟨[], []⟩ "slots" =
    (.ok (), ⟨[("slots", .directory [])], []⟩) := rfl
  refine .missing rfl hmade ?_
  rintro ⟨index⟩
  match index with
  | 0 | 1 | 2 | 3 | 4 | 5 | 6 | 7 | 8 | 9 => exact ⟨["slots"], _, rfl, rfl⟩

-- ---------------------------------------------------------------------------
-- Any directory
-- ---------------------------------------------------------------------------

section Any

variable {before after : SlotDirectory} {slot : Slot} {payload : Bytes}

theorem file?_makeDirectories (h : before.files.Straight before.path) (slot : Slot) :
    (before.files.makeDirectories before.path).2.file? (before.slotPath slot) =
      before.file? slot :=
  FileTree.file?_makeDirectories h slot.slash_notMem_fileName slot.isIdle_fileName
    (slot.fileName_ne (by simp))

theorem file?_store_error {e : WalletError} (h : before.store slot payload = (.error e, after))
    (hstraight : before.files.Straight before.path) (other : Slot) :
    after.file? other = before.file? other := by
  obtain ⟨-, rfl | rfl⟩ | ⟨herror, -⟩ := store_cases h
  · rfl
  · exact file?_makeDirectories hstraight other
  · contradiction

theorem file?_store_ok (h : before.store slot payload = (.ok (), after))
    (hstraight : before.files.Straight before.path) {other : Slot} (hother : other ≠ slot) :
    after.file? other = before.file? other := by
  obtain ⟨⟨e, herror⟩, -⟩ | ⟨-, framed, files, written, -, hmake, hwrite, rfl⟩ := store_cases h
  · contradiction
  · obtain ⟨held, hheld⟩ := FileTree.holdsAt_of_write hwrite
    obtain ⟨changed, hchanged, hset⟩ := hheld.write FileTree.privateMode framed
    obtain rfl : written = changed := Except.ok.inj (hwrite.symm.trans hchanged)
    refine (hset.file?_join (fileName_ne_fileName hother) slot.slash_notMem_fileName
      other.slash_notMem_fileName other.isIdle_fileName (other.fileName_ne (by simp))).trans ?_
    have hother := file?_makeDirectories hstraight other
    rwa [hmake] at hother

end Any

end SlotDirectory

end SlotWallet
