import SlotWallet.Proofs.MissingDirectory
import SlotWallet.Slot.Directory

/-!
# Stores keep their slots apart

A lawful store gives back what it accepted, and a slot that can be read stays as it
is through every write to another slot and every write that is refused. The memory
store and the directory of slot files are lawful.
-/

namespace SlotWallet

class LawfulSlotStore (σ : Type) [SlotStore σ] : Prop where
  fetch_stored : ∀ {before after : σ} {slot : Slot} {payload : Bytes},
    SlotStore.store before slot payload = (.ok (), after) →
      SlotStore.fetch after slot = .ok payload
  /-- What a slot holds is kept by all that is not a successful write to it. -/
  fetch_kept : ∀ {before after : σ} {slot other : Slot} {payload held : Bytes}
    {result : Except WalletError Unit},
    SlotStore.store before slot payload = (result, after) → (result = .ok () → other ≠ slot) →
      SlotStore.fetch before other = .ok held → SlotStore.fetch after other = .ok held

namespace MemoryStore

theorem fetch_of_store {before after : MemoryStore} {slot other : Slot} {payload held : Bytes}
    {result : Except WalletError Unit} (h : before.store slot payload = (result, after))
    (hother : result = .ok () → other ≠ slot) (hheld : before.fetch other = .ok held) :
    after.fetch other = .ok held := by
  unfold store at h
  split at h
  · cases h
    rw [fetch, contents_put_of_ne (hother rfl)]
    exact hheld
  · cases h
    exact hheld

instance : LawfulSlotStore MemoryStore := ⟨fetch_store, fetch_of_store⟩

end MemoryStore

namespace Slot

theorem name_inj {slot other : Slot} (h : slot.name = other.name) : slot = other := by
  have hchars : slot.nameChars = other.nameChars := String.ofList_injective h
  have hread := ofChars_nameChars slot
  rw [hchars, ofChars_nameChars other] at hread
  exact (Except.ok.inj hread).symm

theorem toList_fileName (slot : Slot) :
    (slot.name ++ ".bin").toList = slot.nameChars ++ ['.', 'b', 'i', 'n'] := by
  simp [name]

theorem slash_notMem_fileName (slot : Slot) : '/' ∉ (slot.name ++ ".bin").toList := by
  have hdigit : ∀ index : Fin 10, Char.ofNat (48 + index) ≠ '/' := by decide
  rw [toList_fileName]
  simpa [nameChars] using (hdigit slot.index).symm

theorem fileName_ne (slot : Slot) {text : String} (h : text.toList.head? ≠ some 'S') :
    slot.name ++ ".bin" ≠ text := by
  rintro rfl
  exact h (by rw [toList_fileName]; rfl)

theorem isIdle_fileName (slot : Slot) : FileTree.isIdle (slot.name ++ ".bin") = false := by
  simp only [FileTree.isIdle, Bool.or_eq_false_iff, decide_eq_false_iff_not]
  exact ⟨slot.fileName_ne (by simp), slot.fileName_ne (by simp)⟩

end Slot

namespace SlotDirectory

theorem fetch_ok {d : SlotDirectory} {slot : Slot} {payload : Bytes} :
    d.fetch slot = .ok payload ↔
      ∃ framed, d.files.read (d.slotPath slot) = .ok framed ∧
        Frame.unframe framed = .ok payload := by
  unfold fetch
  cases d.files.read (d.slotPath slot) with
  | ok framed => simp [mapError_ok]
  | error e => cases e <;> simp [throw, throwThe, MonadExceptOf.throw]

variable {before after : SlotDirectory} {slot : Slot} {payload : Bytes}
  {result : Except WalletError Unit}

/-- A store that fails has made directories at most; one that succeeds has written the framed
payload. -/
theorem store_cases (h : before.store slot payload = (result, after)) :
    ((∃ e, result = .error e) ∧ (after = before ∨
      after = ⟨before.path, (before.files.makeDirectories before.path).2⟩)) ∨
    (result = .ok () ∧ ∃ framed files written, Frame.frame payload = .ok framed ∧
      before.files.makeDirectories before.path = (.ok (), files) ∧
      files.write (before.slotPath slot) FileTree.privateMode framed = .ok written ∧
      after = ⟨before.path, written⟩) := by
  unfold store at h
  split at h
  · rename_i fault _
    cases h
    exact .inl ⟨⟨_, rfl⟩, .inl rfl⟩
  · rename_i framed hframe
    split at h
    · rename_i e files hmake
      cases h
      exact .inl ⟨⟨_, rfl⟩, .inr (by rw [hmake])⟩
    · rename_i files hmake
      dsimp only at h
      split at h
      · rename_i e _
        cases h
        exact .inl ⟨⟨_, rfl⟩, .inr (by rw [hmake])⟩
      · rename_i written hwrite
        cases h
        exact .inr ⟨rfl, framed, files, written, hframe, hmake, hwrite, rfl⟩

theorem fetch_stored (h : before.store slot payload = (.ok (), after)) :
    after.fetch slot = .ok payload := by
  obtain ⟨⟨e, herror⟩, -⟩ | ⟨-, framed, files, written, hframe, -, hwrite, rfl⟩ := store_cases h
  · contradiction
  · exact fetch_ok.mpr ⟨framed, FileTree.read_write hwrite, Frame.unframe_frame hframe⟩

theorem path_store (h : before.store slot payload = (result, after)) :
    after.path = before.path := by
  obtain ⟨-, rfl | rfl⟩ | ⟨-, _, _, _, -, -, -, rfl⟩ := store_cases h <;> rfl

theorem fileName_ne_fileName {other : Slot} (h : other ≠ slot) :
    other.name ++ ".bin" ≠ slot.name ++ ".bin" := fun heq =>
  h (Slot.name_inj (String.append_left_inj ".bin" |>.mp heq))

theorem fetch_of_store {other : Slot} {held : Bytes}
    (h : before.store slot payload = (result, after)) (hother : result = .ok () → other ≠ slot)
    (hheld : before.fetch other = .ok held) : after.fetch other = .ok held := by
  obtain ⟨framed, hread, hunframe⟩ := fetch_ok.mp hheld
  have hmake : before.files.makeDirectories before.path = (.ok (), before.files) :=
    (FileTree.hasDirectory_of_read other.slash_notMem_fileName hread).makeDirectories_eq
  obtain ⟨-, rfl | rfl⟩ | ⟨rfl, _, files, written, -, hfiles, hwrite, rfl⟩ := store_cases h
  · exact hheld
  · rwa [hmake]
  · obtain rfl : before.files = files := (Prod.mk.inj (hmake.symm.trans hfiles)).2
    refine fetch_ok.mpr ⟨framed, ?_, hunframe⟩
    exact FileTree.read_write_join (fileName_ne_fileName (hother rfl)) slot.slash_notMem_fileName
      other.slash_notMem_fileName other.isIdle_fileName (other.fileName_ne (by simp)) hwrite hread

instance : LawfulSlotStore SlotDirectory := ⟨fetch_stored, fetch_of_store⟩

end SlotDirectory

end SlotWallet
