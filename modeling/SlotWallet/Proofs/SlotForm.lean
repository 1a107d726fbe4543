import Mathlib.Data.Set.Function
import SlotWallet.Proofs.SealedForm
import SlotWallet.Slot.StoredKey
import SlotWallet.Slot.Frame

/-!
# Which contents are a wallet

A slot's file holds a length, a public key and a sealed seed, one behind the other. Each
wallet has one such form, and the byte strings of the one size, length and version are the
forms of wallets (`StoredKey.form_bijOn`). What is refused tells its cause
(`StoredKey.Unreadable`).
-/

namespace SlotWallet

-- ---------------------------------------------------------------------------
-- Frames
-- ---------------------------------------------------------------------------

namespace Frame

variable {payload framed : Bytes}

theorem frame_of_le (h : payload.length ≤ 255) :
    frame payload = .ok (UInt8.ofNat payload.length :: payload) :=
  if_pos h

theorem frame_of_lt (h : 255 < payload.length) :
    frame payload = .error (.longPayload payload.length 255) :=
  if_neg (Nat.not_le.mpr h)

theorem unframe_ok : unframe framed = .ok payload ↔ frame payload = .ok framed :=
  ⟨frame_unframe, unframe_frame⟩

theorem unframe_cons (length : UInt8) (rest : Bytes) :
    unframe (length :: rest) =
      if rest.length = length.toNat then .ok rest
      else .error (.lengthMismatch length.toNat rest.length) := rfl

end Frame

-- ---------------------------------------------------------------------------
-- Payloads
-- ---------------------------------------------------------------------------

namespace StoredKey

variable {key : StoredKey} {payload framed : Bytes} {e : WalletError}

theorem ofPayload_of_length (h : payload.length = 157) :
    ofPayload payload = (SealedSeed.ofBytes (payload.drop 32)).map
      fun s => ⟨⟨payload.take 32, by rw [List.length_take, h]; rfl⟩, s⟩ := by
  rw [ofPayload, dif_pos (show payload.length = length from h)]
  cases SealedSeed.ofBytes (payload.drop 32) <;> rfl

theorem ofPayload_of_length_ne (h : payload.length ≠ 157) :
    ofPayload payload = .error (.storage (.walletLength 157 payload.length)) :=
  dif_neg h

theorem ofPayload_ok : ofPayload payload = .ok key ↔ payload = key.payload := by
  constructor
  · intro h
    by_cases hlength : payload.length = 157
    · rw [ofPayload_of_length hlength] at h
      obtain ⟨s, hs, rfl⟩ := map_ok.mp h
      have hdrop : payload.drop 32 = s.toBytes := SealedSeed.ofBytes_ok.mp hs
      rw [StoredKey.payload, ← hdrop, List.take_append_drop]
    · rw [ofPayload_of_length_ne hlength] at h
      contradiction
  · rintro rfl
    exact ofPayload_payload key

theorem ofPayload_error_of_length (h : payload.length = 157) :
    ofPayload payload = .error e ↔ payload[32]? ≠ some 1 ∧ e = .crypto := by
  have hform : (payload.drop 32).length = 125 := by rw [List.length_drop, h]
  have hhead : (payload.drop 32).head? = payload[32]? := List.head?_drop
  rw [ofPayload_of_length h]
  by_cases hversion : payload[32]? = some 1
  · obtain ⟨s, hs⟩ := SealedSeed.exists_eq_toBytes hform (hhead.trans hversion)
    rw [hs, SealedSeed.ofBytes_toBytes]
    exact ⟨nofun, fun hno => absurd hversion hno.1⟩
  · cases hread : SealedSeed.ofBytes (payload.drop 32) with
    | ok s => exact absurd (hhead ▸ (SealedSeed.length_of_ofBytes hread).2) hversion
    | error cause =>
      rw [SealedSeed.ofBytes_error hread]
      exact ⟨fun he => ⟨hversion, (Except.error.inj he).symm⟩, fun he => he.2 ▸ rfl⟩

-- ---------------------------------------------------------------------------
-- Contents
-- ---------------------------------------------------------------------------

def form (key : StoredKey) : Bytes := 157 :: key.payload

def ofForm (framed : Bytes) : Except WalletError StoredKey := do
  ofPayload (← (Frame.unframe framed).mapError .storage)

theorem frame_payload (key : StoredKey) : Frame.frame key.payload = .ok key.form := by
  rw [Frame.frame_of_le (by rw [length_payload]; decide), length_payload]
  rfl

theorem ofForm_ok : ofForm framed = .ok key ↔ Frame.frame key.payload = .ok framed := by
  simp only [ofForm, bind_ok, mapError_ok, Frame.unframe_ok, ofPayload_ok]
  exact ⟨fun ⟨_, hframe, hpayload⟩ => hpayload ▸ hframe, fun hframe => ⟨_, hframe, rfl⟩⟩

/-- Why what a file holds is no wallet. -/
inductive Unreadable : Bytes → WalletError → Prop
  | empty : Unreadable [] (.storage .noLength)
  | mismatched {length : UInt8} {payload : Bytes} : payload.length ≠ length.toNat →
      Unreadable (length :: payload) (.storage (.lengthMismatch length.toNat payload.length))
  | missized {length : UInt8} {payload : Bytes} : payload.length = length.toNat →
      payload.length ≠ 157 →
      Unreadable (length :: payload) (.storage (.walletLength 157 payload.length))
  | otherVersion {payload : Bytes} : payload.length = 157 → payload[32]? ≠ some 1 →
      Unreadable (157 :: payload) .crypto

theorem ofForm_cons {length : UInt8} (h : payload.length = length.toNat) :
    ofForm (length :: payload) = ofPayload payload := by
  rw [ofForm, Frame.unframe_cons, if_pos h]
  rfl

theorem ofForm_error : ofForm framed = .error e ↔ Unreadable framed e := by
  constructor
  · intro h
    cases framed with
    | nil =>
      cases h
      exact .empty
    | cons length payload =>
      by_cases hlength : payload.length = length.toNat
      · rw [ofForm_cons hlength] at h
        by_cases hsize : payload.length = 157
        · obtain ⟨hversion, rfl⟩ := (ofPayload_error_of_length hsize).mp h
          obtain rfl : length = 157 := UInt8.toNat_inj.mp (hlength.symm.trans hsize)
          exact .otherVersion hsize hversion
        · rw [ofPayload_of_length_ne hsize] at h
          cases h
          exact .missized hlength hsize
      · rw [ofForm, Frame.unframe_cons, if_neg hlength] at h
        cases h
        exact .mismatched hlength
  · intro h
    cases h with
    | empty => rfl
    | mismatched hlength =>
      rw [ofForm, Frame.unframe_cons, if_neg hlength]
      rfl
    | missized hlength hsize => rw [ofForm_cons hlength, ofPayload_of_length_ne hsize]
    | otherVersion hsize hversion =>
      rw [ofForm_cons hsize]
      exact (ofPayload_error_of_length hsize).mpr ⟨hversion, rfl⟩

/-- The byte strings of the one size, with the one length in front and the one version. -/
def Forms : Set Bytes :=
  {framed | framed.length = 158 ∧ framed[0]? = some 157 ∧ framed[33]? = some 1}

theorem form_mem (key : StoredKey) : key.form ∈ Forms := by
  have hversion : key.payload[32]? = some 1 := by
    rw [payload, List.getElem?_append_right (by rw [key.publicKey.length_eq]),
      key.publicKey.length_eq]
    rfl
  exact ⟨by rw [form, List.length_cons, length_payload]; rfl, rfl, hversion⟩

theorem exists_form (h : framed ∈ Forms) : ∃ key, form key = framed := by
  obtain ⟨hlength, hfirst, hversion⟩ := h
  cases framed with
  | nil => contradiction
  | cons length payload =>
    obtain rfl : length = 157 := Option.some.inj hfirst
    have hsize : payload.length = 157 := Nat.succ.inj hlength
    cases hread : ofPayload payload with
    | ok key => exact ⟨key, by rw [form, ofPayload_ok.mp hread]⟩
    | error e => exact absurd hversion ((ofPayload_error_of_length hsize).mp hread).1

theorem form_inj {other : StoredKey} (h : key.form = other.form) : key = other := by
  have hread : ofForm key.form = .ok key := ofForm_ok.mpr key.frame_payload
  rw [h, ofForm_ok.mpr other.frame_payload] at hread
  exact (Except.ok.inj hread).symm

/-- Wallets and their forms go with one another one to one. A form is the framed payload, it
has 158 bytes, and it is read as the wallet it is the form of; what is read as a wallet is
framed as it was. What is no form is refused for its cause. A payload is framed as long as
it has at most 255 bytes, and unframing accepts what framing gives and takes it back. -/
theorem form_bijOn :
    Set.BijOn form Set.univ Forms ∧
    (∀ key : StoredKey, Frame.frame key.payload = .ok key.form ∧ key.form.length = 158 ∧
      Frame.unframe key.form = .ok key.payload ∧ ofPayload key.payload = .ok key) ∧
    (∀ framed key, (∃ payload, Frame.unframe framed = .ok payload ∧
      ofPayload payload = .ok key) ↔ Frame.frame key.payload = .ok framed) ∧
    (∀ framed, (∃ key, ofForm framed = .ok key) ↔
      framed.length = 158 ∧ framed[0]? = some 157 ∧ framed[33]? = some 1) ∧
    (∀ framed e, ofForm framed = .error e ↔ Unreadable framed e) ∧
    (∀ payload, Frame.frame payload = if payload.length ≤ 255 then
      .ok (UInt8.ofNat payload.length :: payload) else
      .error (.longPayload payload.length 255)) ∧
    ∀ framed payload, Frame.unframe framed = .ok payload ↔ Frame.frame payload = .ok framed := by
  refine ⟨⟨fun key _ => key.form_mem, fun key _ other _ h => form_inj h, ?_⟩, ?_, ?_, ?_,
    fun framed e => ofForm_error, fun payload => rfl, fun framed payload => Frame.unframe_ok⟩
  · intro framed h
    obtain ⟨key, hkey⟩ := exists_form h
    exact ⟨key, Set.mem_univ key, hkey⟩
  · intro key
    exact ⟨key.frame_payload, key.form_mem.1, Frame.unframe_frame key.frame_payload,
      ofPayload_payload key⟩
  · intro framed key
    rw [← ofForm_ok, ofForm, bind_ok]
    simp only [mapError_ok]
  · intro framed
    constructor
    · rintro ⟨key, hread⟩
      cases key.frame_payload.symm.trans (ofForm_ok.mp hread)
      exact key.form_mem
    · intro h
      obtain ⟨key, rfl⟩ := exists_form h
      exact ⟨key, ofForm_ok.mpr key.frame_payload⟩

end StoredKey

end SlotWallet
