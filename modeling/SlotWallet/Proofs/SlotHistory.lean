import SlotWallet.Proofs.SealedSeed
import SlotWallet.Proofs.SlotStore
import SlotWallet.Wallet

/-!
# Histories of a store

A run performs operations on a store one after the other and keeps what was answered.
After any run a slot holds what its last successful write put there
(`fetch_run`), so a wallet that was created is loaded and unlocked until its own
slot is written again (`keepsCreations`).
-/

namespace SlotWallet

-- ---------------------------------------------------------------------------
-- Runs
-- ---------------------------------------------------------------------------

inductive SlotOperation where
  | create (slot : Slot) (password : Bytes) (iterations : UInt32) (source : Bytes)
  | save (slot : Slot) (key : StoredKey)
  | store (slot : Slot) (payload : Bytes)
  | fetch (slot : Slot)

inductive SlotAnswer where
  | created (result : Except WalletError StoredKey)
  | stored (result : Except WalletError Unit)
  | fetched (result : Except WalletError Bytes)

structure SlotEvent where
  operation : SlotOperation
  answer : SlotAnswer

section Runs

variable {σ : Type} [SlotStore σ]

def SlotOperation.perform (store : σ) : SlotOperation → SlotAnswer × σ
  | .create slot password iterations source =>
    let (result, store) := Wallet.create store slot password iterations source
    (.created result, store)
  | .save slot key =>
    let (result, store) := key.save store slot
    (.stored result, store)
  | .store slot payload =>
    let (result, store) := SlotStore.store store slot payload
    (.stored result, store)
  | .fetch slot => (.fetched (SlotStore.fetch store slot), store)

def runSlots (store : σ) : List SlotOperation → List SlotEvent × σ
  | [] => ([], store)
  | operation :: rest =>
    let (answer, store) := operation.perform store
    let (events, store) := runSlots store rest
    (⟨operation, answer⟩ :: events, store)

theorem runSlots_cons (store : σ) (operation : SlotOperation) (rest : List SlotOperation) :
    runSlots store (operation :: rest) =
      (⟨operation, (operation.perform store).1⟩ :: (runSlots (operation.perform store).2 rest).1,
        (runSlots (operation.perform store).2 rest).2) := rfl

end Runs

namespace SlotEvent

def written? (event : SlotEvent) (slot : Slot) : Option Bytes :=
  match event.operation, event.answer with
  | .create target .., .created (.ok key) => if target = slot then some key.payload else none
  | .save target key, .stored (.ok ()) => if target = slot then some key.payload else none
  | .store target payload, .stored (.ok ()) => if target = slot then some payload else none
  | _, _ => none

def lastWrite? (slot : Slot) (events : List SlotEvent) : Option SlotEvent :=
  events.findRev? fun event => (event.written? slot).isSome

theorem mem_of_lastWrite? {slot : Slot} {events : List SlotEvent} {event : SlotEvent}
    (h : lastWrite? slot events = some event) : event ∈ events := by
  rw [lastWrite?, List.findRev?_eq_find?_reverse] at h
  exact List.mem_reverse.mp (List.mem_of_find?_eq_some h)

end SlotEvent

-- ---------------------------------------------------------------------------
-- Creations
-- ---------------------------------------------------------------------------

theorem StoredKey.load_of_fetch {σ : Type} [SlotStore σ] {store : σ} {slot : Slot}
    {key : StoredKey} (h : SlotStore.fetch store slot = .ok key.payload) :
    load store slot = .ok key := by
  rw [load, h]
  exact ofPayload_payload key

namespace Wallet

variable {password : Bytes} {iterations : UInt32}

theorem generateStored_ok {source rest : Bytes} {key : StoredKey}
    (h : generateStored password iterations source = .ok (key, rest)) :
    ∃ seed : Seed, seed.bytes = source.take 32 ∧ key.publicKey = Ed25519.publicKey seed ∧
      key.unlock password iterations = .ok (.ofSeed seed) := by
  obtain ⟨keys, middle, hkeys, hstored⟩ := Drawing.bind_ok.mp h
  obtain ⟨seed, afterSeed, hseed, hpure⟩ := Drawing.bind_ok.mp hkeys
  obtain ⟨rfl, rfl⟩ := Drawing.pure_ok.mp hpure
  obtain ⟨sealed, afterBlob, hsealed, hpure⟩ := Drawing.bind_ok.mp hstored
  obtain ⟨rfl, rfl⟩ := Drawing.pure_ok.mp hpure
  refine ⟨seed, ?_, rfl, ?_⟩
  · rw [draw_ok.mp hseed, List.take_left' seed.length_eq]
  · exact bind_ok.mpr ⟨seed, SealedSeed.openSeed_ofSeed hsealed, rfl⟩

theorem exists_generateStored {source : Bytes} (hp : password ≠ []) (hi : iterations ≠ 0)
    (hs : 60 ≤ source.length) :
    ∃ key, generateStored password iterations source = .ok (key, source.drop 60) := by
  let seed : Seed := ⟨source.take 32, by simp; omega⟩
  let salt : FixedBytes 16 := ⟨(source.drop 32).take 16, by simp; omega⟩
  let nonce : FixedBytes 12 := ⟨(source.drop 48).take 12, by simp; omega⟩
  have hsplit : source.drop 32 = salt.bytes ++ (nonce.bytes ++ source.drop 60) := by
    have hnonce : nonce.bytes ++ source.drop 60 = source.drop 48 := by
      simpa [nonce] using List.take_append_drop 12 (source.drop 48)
    rw [hnonce]
    simpa [salt] using (List.take_append_drop 16 (source.drop 32)).symm
  have hsealed := SealedSeed.ofSeed_ok.mpr ⟨hp, hi, salt, nonce, hsplit,
    @rfl _ (SealedSeed.sealBytes password (seed.append (Ed25519.publicKey seed)) salt nonce
      iterations)⟩
  refine ⟨_, Drawing.bind_ok.mpr ⟨.ofSeed seed, source.drop 32, ?_,
    Drawing.bind_ok.mpr ⟨_, _, hsealed, rfl⟩⟩⟩
  exact Drawing.bind_ok.mpr ⟨seed, _, draw_ok.mpr (List.take_append_drop 32 source).symm, rfl⟩

section Create

variable {σ : Type} [SlotStore σ] {before after : σ} {slot : Slot} {source : Bytes}

theorem create_ok {key : StoredKey}
    (h : create before slot password iterations source = (.ok key, after)) :
    (∃ rest, generateStored password iterations source = .ok (key, rest)) ∧
      SlotStore.store before slot key.payload = (.ok (), after) := by
  unfold create at h
  split at h
  · cases h
  · rename_i made rest hmade
    split at h
    · rename_i hsave
      cases h
      exact ⟨⟨rest, hmade⟩, hsave⟩
    · cases h

theorem create_of_save {key : StoredKey} {rest : Bytes}
    (h : generateStored password iterations source = .ok (key, rest))
    (hs : SlotStore.store before slot key.payload = (.ok (), after)) :
    create before slot password iterations source = (.ok key, after) := by
  simp [create, h, StoredKey.save, hs]

theorem create_error {e : WalletError}
    (h : create before slot password iterations source = (.error e, after)) :
    after = before ∨
      ∃ payload fault, SlotStore.store before slot payload = (.error fault, after) := by
  unfold create at h
  split at h
  · cases h
    exact .inl rfl
  · rename_i made rest hmade
    split at h
    · cases h
    · rename_i fault _ hsave
      cases h
      exact .inr ⟨_, _, hsave⟩

end Create

end Wallet

-- ---------------------------------------------------------------------------
-- Steps
-- ---------------------------------------------------------------------------

section Steps

variable {σ : Type} [SlotStore σ]

/-- An operation is one successful write, and its event tells which, or it writes
nothing, and the store refused it if it was asked at all. -/
theorem perform_cases {before after : σ} {operation : SlotOperation} {answer : SlotAnswer}
    (h : operation.perform before = (answer, after)) :
    (∃ target payload, SlotStore.store before target payload = (.ok (), after) ∧
      ∀ slot, SlotEvent.written? ⟨operation, answer⟩ slot =
        if target = slot then some payload else none) ∨
    ((∀ slot, SlotEvent.written? ⟨operation, answer⟩ slot = none) ∧
      (after = before ∨ ∃ target payload fault,
        SlotStore.store before target payload = (.error fault, after))) := by
  cases operation with
  | create target password iterations source =>
    match hc : Wallet.create before target password iterations source with
    | (.ok key, final) =>
      simp only [SlotOperation.perform, hc] at h
      cases h
      exact .inl ⟨target, key.payload, (Wallet.create_ok hc).2, fun slot => rfl⟩
    | (.error e, final) =>
      simp only [SlotOperation.perform, hc] at h
      cases h
      obtain h | ⟨payload, fault, hs⟩ := Wallet.create_error hc
      · exact .inr ⟨fun slot => rfl, .inl h⟩
      · exact .inr ⟨fun slot => rfl, .inr ⟨target, payload, fault, hs⟩⟩
  | save target key =>
    match hs : SlotStore.store before target key.payload with
    | (.ok (), final) =>
      simp only [SlotOperation.perform, StoredKey.save, hs] at h
      cases h
      exact .inl ⟨target, key.payload, hs, fun slot => rfl⟩
    | (.error e, final) =>
      simp only [SlotOperation.perform, StoredKey.save, hs] at h
      cases h
      exact .inr ⟨fun slot => rfl, .inr ⟨target, key.payload, e, hs⟩⟩
  | store target payload =>
    match hs : SlotStore.store before target payload with
    | (.ok (), final) =>
      simp only [SlotOperation.perform, hs] at h
      cases h
      exact .inl ⟨target, payload, hs, fun slot => rfl⟩
    | (.error e, final) =>
      simp only [SlotOperation.perform, hs] at h
      cases h
      exact .inr ⟨fun slot => rfl, .inr ⟨target, payload, e, hs⟩⟩
  | fetch target =>
    cases h
    exact .inr ⟨fun slot => rfl, .inl rfl⟩

theorem generateStored_of_mem_run {store : σ} {operations : List SlotOperation} {slot : Slot}
    {password : Bytes} {iterations : UInt32} {source : Bytes} {key : StoredKey}
    (h : ⟨.create slot password iterations source, .created (.ok key)⟩ ∈
      (runSlots store operations).1) :
    ∃ rest, Wallet.generateStored password iterations source = .ok (key, rest) := by
  induction operations generalizing store with
  | nil => contradiction
  | cons operation rest ih =>
    match hp : operation.perform store with
    | (answer, next) =>
      simp only [runSlots, hp, List.mem_cons, SlotEvent.mk.injEq] at h
      obtain ⟨rfl, rfl⟩ | h := h
      · match hc : Wallet.create store slot password iterations source with
        | (result, final) =>
          simp only [SlotOperation.perform, hc, Prod.mk.injEq, SlotAnswer.created.injEq] at hp
          obtain ⟨rfl, -⟩ := hp
          exact (Wallet.create_ok hc).1
      · exact ih h

/-- What every operation keeps that does not write a slot is kept by a run in which no one
does. -/
theorem run_of_none {P : σ → Prop} {slot : Slot} (hstep : ∀ {before after operation answer},
      SlotOperation.perform before operation = (answer, after) →
      SlotEvent.written? ⟨operation, answer⟩ slot = none → P before → P after)
    {store : σ} {operations : List SlotOperation}
    (hw : SlotEvent.lastWrite? slot (runSlots store operations).1 = none) (h : P store) :
    P (runSlots store operations).2 := by
  induction operations generalizing store with
  | nil => exact h
  | cons operation rest ih =>
    match hp : operation.perform store with
    | (answer, next) =>
      simp only [runSlots, hp, SlotEvent.lastWrite?, List.findRev?] at hw ⊢
      split at hw
      · contradiction
      · rename_i hrest
        split at hw
        · contradiction
        · rename_i hfirst
          exact ih hrest (hstep hp (by simpa using hfirst) h)

variable [LawfulSlotStore σ]

theorem fetch_perform {before after : σ} {operation : SlotOperation} {answer : SlotAnswer}
    {slot : Slot} {payload : Bytes} (h : operation.perform before = (answer, after))
    (hw : SlotEvent.written? ⟨operation, answer⟩ slot = some payload) :
    SlotStore.fetch after slot = .ok payload := by
  obtain ⟨target, stored, hstore, hwritten⟩ | ⟨hwritten, -⟩ := perform_cases h
  · rw [hwritten] at hw
    split at hw
    · rename_i heq
      cases hw
      exact heq ▸ LawfulSlotStore.fetch_stored hstore
    · contradiction
  · rw [hwritten] at hw
    contradiction

theorem fetch_perform_of_none {before after : σ} {operation : SlotOperation} {answer : SlotAnswer}
    {slot : Slot} {held : Bytes} (h : operation.perform before = (answer, after))
    (hw : SlotEvent.written? ⟨operation, answer⟩ slot = none)
    (hheld : SlotStore.fetch before slot = .ok held) : SlotStore.fetch after slot = .ok held := by
  obtain ⟨target, payload, hstore, hwritten⟩ | ⟨-, rfl | ⟨target, payload, fault, hstore⟩⟩ :=
    perform_cases h
  · refine LawfulSlotStore.fetch_kept hstore (fun _ heq => ?_) hheld
    rw [hwritten, if_pos heq.symm] at hw
    contradiction
  · exact hheld
  · exact LawfulSlotStore.fetch_kept hstore (by simp) hheld

-- ---------------------------------------------------------------------------
-- What a run keeps
-- ---------------------------------------------------------------------------

theorem fetch_run_of_none {store : σ} {operations : List SlotOperation} {slot : Slot} {held : Bytes}
    (hw : SlotEvent.lastWrite? slot (runSlots store operations).1 = none)
    (hheld : SlotStore.fetch store slot = .ok held) :
    SlotStore.fetch (runSlots store operations).2 slot = .ok held :=
  run_of_none fetch_perform_of_none hw hheld

theorem fetch_run {store : σ} {operations : List SlotOperation} {slot : Slot} {event : SlotEvent}
    (hw : SlotEvent.lastWrite? slot (runSlots store operations).1 = some event) :
    ∃ payload, event.written? slot = some payload ∧
      SlotStore.fetch (runSlots store operations).2 slot = .ok payload := by
  induction operations generalizing store with
  | nil => contradiction
  | cons operation rest ih =>
    match hp : operation.perform store with
    | (answer, next) =>
      simp only [runSlots, hp, SlotEvent.lastWrite?, List.findRev?] at hw ⊢
      split at hw
      · -- a later write hides this one
        rename_i found hrest
        cases hw
        exact ih hrest
      · rename_i hrest
        split at hw
        · rename_i hfirst
          cases hw
          obtain ⟨payload, hpayload⟩ := Option.isSome_iff_exists.mp hfirst
          exact ⟨payload, hpayload, fetch_run_of_none hrest (fetch_perform hp hpayload)⟩
        · contradiction

end Steps

-- ---------------------------------------------------------------------------
-- Created wallets
-- ---------------------------------------------------------------------------

/-- After every run, a slot whose last successful write created a wallet loads that
wallet, and unlocks it to the seed that was drawn for it. -/
def KeepsCreations (σ : Type) [SlotStore σ] : Prop :=
  ∀ (start : σ) (operations : List SlotOperation) (slot : Slot) (password : Bytes)
    (iterations : UInt32) (source : Bytes) (key : StoredKey),
    SlotEvent.lastWrite? slot (runSlots start operations).1 =
        some ⟨.create slot password iterations source, .created (.ok key)⟩ →
      StoredKey.load (runSlots start operations).2 slot = .ok key ∧
      ∃ keys, Wallet.unlock (runSlots start operations).2 slot password iterations = .ok keys ∧
        keys.publicKey = key.publicKey ∧ keys.seed.bytes = source.take 32

theorem keepsCreations_of_lawful {σ : Type} [SlotStore σ] [LawfulSlotStore σ] :
    KeepsCreations σ := by
  intro start operations slot password iterations source key hlast
  obtain ⟨payload, hwritten, hfetch⟩ := fetch_run hlast
  obtain ⟨rest, hstored⟩ := generateStored_of_mem_run (SlotEvent.mem_of_lastWrite? hlast)
  obtain ⟨seed, hseed, hpublic, hunlock⟩ := Wallet.generateStored_ok hstored
  have hpayload : payload = key.payload := by
    simpa [SlotEvent.written?] using hwritten.symm
  have hload : StoredKey.load (runSlots start operations).2 slot = .ok key :=
    StoredKey.load_of_fetch (hpayload ▸ hfetch)
  refine ⟨hload, .ofSeed seed, ?_, hpublic.symm, hseed⟩
  rw [Wallet.unlock, hload]
  exact hunlock

/-- The memory store and the directory of slot files both keep created wallets. -/
theorem keepsCreations : KeepsCreations MemoryStore ∧ KeepsCreations SlotDirectory :=
  ⟨keepsCreations_of_lawful, keepsCreations_of_lawful⟩

/-- A creation that is followed by one that fails and by a write to another slot. -/
theorem keepsCreations_after_failure :
    ∃ key keys, let final := (runSlots MemoryStore.empty
        [.create ⟨0⟩ [0x70] 1 (List.replicate 60 7), .create ⟨0⟩ [] 1 [], .store ⟨1⟩ []]).2
      StoredKey.load final ⟨0⟩ = .ok key ∧ Wallet.unlock final ⟨0⟩ [0x70] 1 = .ok keys ∧
        keys.publicKey = key.publicKey ∧ keys.seed.bytes = List.replicate 32 7 := by
  obtain ⟨key, hkey⟩ := Wallet.exists_generateStored (show ([0x70] : Bytes) ≠ [] by decide)
    (show (1 : UInt32) ≠ 0 by decide) (show 60 ≤ (List.replicate 60 (7 : UInt8)).length by decide)
  have hframe : Frame.frame key.payload = .ok (157 :: key.payload) := by
    rw [Frame.frame, key.length_payload]
    rfl
  have hstore : SlotStore.store MemoryStore.empty ⟨0⟩ key.payload =
      (.ok (), MemoryStore.empty.put ⟨0⟩ (157 :: key.payload)) := by
    simp [SlotStore.store, MemoryStore.store, hframe]
  have hcreate := Wallet.create_of_save hkey hstore
  have hlast : SlotEvent.lastWrite? ⟨0⟩ (runSlots MemoryStore.empty
      [.create ⟨0⟩ [0x70] 1 (List.replicate 60 7), .create ⟨0⟩ [] 1 [], .store ⟨1⟩ []]).1 =
      some ⟨.create ⟨0⟩ [0x70] 1 (List.replicate 60 7), .created (.ok key)⟩ := by
    simp only [runSlots, SlotOperation.perform, hcreate]
    rfl
  obtain ⟨hload, keys, hunlock, hpublic, hseed⟩ := keepsCreations.1 _ _ _ _ _ _ _ hlast
  exact ⟨key, keys, hload, hunlock, hpublic, hseed⟩

end SlotWallet
