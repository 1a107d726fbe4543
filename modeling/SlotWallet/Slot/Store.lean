import SlotWallet.Slot.Basic
import SlotWallet.Slot.Frame
import SlotWallet.Slot.StoredKey

/-!
# Stores of ten slots

A store replaces and reads the payload of a slot. A write that is refused may
still have touched the state, so both results of a write are given. The memory
store keeps framed payloads by slot.
-/

namespace SlotWallet

class SlotStore (σ : Type) where
  store : σ → Slot → Bytes → Except WalletError Unit × σ
  fetch : σ → Slot → Except WalletError Bytes

namespace StoredKey

variable {σ : Type} [SlotStore σ]

def save (key : StoredKey) (store : σ) (slot : Slot) : Except WalletError Unit × σ :=
  SlotStore.store store slot key.payload

def load (store : σ) (slot : Slot) : Except WalletError StoredKey := do
  ofPayload (← SlotStore.fetch store slot)

end StoredKey

structure MemoryStore where
  contents : Slot → Option Bytes

namespace MemoryStore

def empty : MemoryStore := ⟨fun _ => none⟩

def put (m : MemoryStore) (slot : Slot) (framed : Bytes) : MemoryStore :=
  ⟨fun other => if other = slot then some framed else m.contents other⟩

@[simp] theorem contents_put_self (m : MemoryStore) (slot : Slot) (framed : Bytes) :
    (m.put slot framed).contents slot = some framed := by
  simp [put]

@[simp] theorem contents_put_of_ne {m : MemoryStore} {slot other : Slot} {framed : Bytes}
    (h : other ≠ slot) : (m.put slot framed).contents other = m.contents other := by
  simp [put, h]

def store (m : MemoryStore) (slot : Slot) (payload : Bytes) :
    Except WalletError Unit × MemoryStore :=
  match Frame.frame payload with
  | .ok framed => (.ok (), m.put slot framed)
  | .error fault => (.error (.invalidInput fault), m)

def fetch (m : MemoryStore) (slot : Slot) : Except WalletError Bytes :=
  match m.contents slot with
  | some framed => (Frame.unframe framed).mapError .storage
  | none => throw (.storage (.emptySlot slot.name))

instance : SlotStore MemoryStore := ⟨store, fetch⟩

theorem fetch_store {m m' : MemoryStore} {slot : Slot} {payload : Bytes}
    (h : m.store slot payload = (.ok (), m')) : m'.fetch slot = .ok payload := by
  unfold store at h
  split at h
  · rename_i framed hf
    cases h
    rw [fetch, contents_put_self]
    simp only [Frame.unframe_frame hf]
    rfl
  · cases h

end MemoryStore

end SlotWallet
