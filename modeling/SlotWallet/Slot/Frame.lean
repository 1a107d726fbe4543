import SlotWallet.Bytes
import SlotWallet.Error

/-!
# Framed payloads

A slot holds up to 255 bytes behind one byte that gives their number.
-/

namespace SlotWallet.Frame

def maxPayloadLength : Nat := 255

def frame (payload : Bytes) : Except InputFault Bytes :=
  if payload.length ≤ maxPayloadLength then pure (UInt8.ofNat payload.length :: payload)
  else throw (.longPayload payload.length maxPayloadLength)

def unframe : Bytes → Except StorageFault Bytes
  | [] => throw .noLength
  | length :: payload =>
    if payload.length = length.toNat then pure payload
    else throw (.lengthMismatch length.toNat payload.length)

theorem unframe_frame {payload framed : Bytes} (h : frame payload = .ok framed) :
    unframe framed = .ok payload := by
  unfold frame at h
  split at h
  · rename_i hl
    cases h
    have hm : payload.length % 256 = payload.length :=
      Nat.mod_eq_of_lt (Nat.lt_succ_of_le hl)
    simp [unframe, hm, pure, Except.pure]
  · contradiction

theorem frame_unframe {payload framed : Bytes} (h : unframe framed = .ok payload) :
    frame payload = .ok framed := by
  cases framed with
  | nil => contradiction
  | cons length rest =>
    simp only [unframe] at h
    split at h
    · rename_i hl
      cases h
      have hle : payload.length ≤ maxPayloadLength := hl ▸ Nat.le_of_lt_succ length.toNat_lt
      rw [frame, if_pos hle, hl, UInt8.ofNat_toNat]
      rfl
    · contradiction

end SlotWallet.Frame
