import SlotWallet.Proofs.Signed

/-!
# Which transfers are accepted

A transfer is refused for what it asks and never for want of room: every append to the buffer
of the message and to that of the frame fits (`compile_unhindered`). In an accepted message the
recipient has a place of its own; the sender has one as long as it is not a program that the
message calls (`recipient_apart`).
-/

namespace SlotWallet

theorem systemProgram_ne_memoProgram : systemProgram ≠ memoProgram := by
  decide

namespace TransferRequest

variable {request : TransferRequest} {sender key : PublicKey} {compiled : WireBuffer}

-- ---------------------------------------------------------------------------
-- Refusals
-- ---------------------------------------------------------------------------

theorem mem_programs :
    key ∈ request.programs ↔ key = systemProgram ∨ request.memo.isSome ∧ key = memoProgram := by
  cases hm : request.memo <;> simp [programs, hm]

theorem fault?_eq_none :
    request.fault? sender = none ↔
      request.lamports ≠ 0 ∧ request.recipient ≠ sender ∧ request.recipient ∉ request.programs := by
  unfold fault?
  split_ifs <;> simp_all

theorem fault?_cases {fault : InputFault} (h : request.fault? sender = some fault) :
    fault = .zeroAmount ∨ fault = .selfTransfer ∨ fault = .programRecipient := by
  unfold fault? at h
  split_ifs at h <;> simp_all

theorem compile_error {fault : InputFault} (h : request.compile sender = .error fault) :
    request.fault? sender = some fault := by
  cases hf : request.fault? sender with
  | none =>
    obtain ⟨compiled, hc⟩ := exists_compile hf
    rw [hc] at h
    contradiction
  | some cause =>
    simp only [compile, hf] at h
    cases h
    rfl

-- ---------------------------------------------------------------------------
-- The table of keys
-- ---------------------------------------------------------------------------

theorem keys_eq (request : TransferRequest) (sender : PublicKey) :
    request.keys sender = sender :: request.recipient :: request.programs := by
  simp [keys, programs]

theorem nodup_programs (request : TransferRequest) : request.programs.Nodup := by
  cases hm : request.memo <;> simp [programs, hm, systemProgram_ne_memoProgram]

theorem count_recipient (h : request.fault? sender = none) :
    (request.keys sender).count request.recipient = 1 := by
  obtain ⟨-, hs, hp⟩ := fault?_eq_none.mp h
  simp [keys_eq, Ne.symm hs, List.count_eq_zero.mpr hp]

/-- Only the sender can be in the table twice. -/
theorem nodup_keys (h : request.fault? sender = none) :
    (request.keys sender).Nodup ↔ sender ∉ request.programs := by
  obtain ⟨-, hs, hp⟩ := fault?_eq_none.mp h
  simp [keys_eq, Ne.symm hs, hp, nodup_programs]

/-- In an accepted message the recipient is in the table of keys once, and no key is there
twice unless the sender is a program that the message calls. The account that is credited is
none of these programs. -/
theorem recipient_apart (h : request.compile sender = .ok compiled) :
    ∃ message, Message.read compiled.bytes = some message ∧
      message.keys.count request.recipient = 1 ∧
      (message.keys.Nodup ↔
        sender ≠ systemProgram ∧ (request.memo.isSome → sender ≠ memoProgram)) ∧
      message.orders? = some (.pay sender request.recipient request.lamports.toNat ::
        (request.memo.map fun memo => Order.note memo.bytes).toList) ∧
      request.recipient ≠ systemProgram ∧
      (request.memo.isSome → request.recipient ≠ memoProgram) := by
  obtain ⟨hf, -, -⟩ := compile_ok.mp h
  obtain ⟨-, -, hp⟩ := fault?_eq_none.mp hf
  simp only [mem_programs, not_or, not_and] at hp
  refine ⟨request.message sender, read_bytes_compile h, count_recipient hf, ?_,
    request.orders?_message sender, hp.1, hp.2⟩
  have hnodup := nodup_keys hf
  rw [mem_programs, not_or, not_and] at hnodup
  exact hnodup

/-- A payment of 5000 with the memo `hi`, whose four keys are all different. -/
theorem recipient_apart_hi :
    ∃ compiled message,
      compile ⟨⟨List.replicate 32 0xcc, rfl⟩, 5000, ⟨List.replicate 32 0xbb, rfl⟩,
        some ⟨['h', 'i'], by decide, by decide, by decide⟩⟩ ⟨List.replicate 32 0x11, rfl⟩ =
          .ok compiled ∧
      Message.read compiled.bytes = some message ∧ message.keys.Nodup := by
  have hf : fault? ⟨⟨List.replicate 32 0xcc, rfl⟩, 5000, ⟨List.replicate 32 0xbb, rfl⟩,
      some ⟨['h', 'i'], by decide, by decide, by decide⟩⟩ ⟨List.replicate 32 0x11, rfl⟩ = none := by
    decide
  obtain ⟨compiled, hc⟩ := exists_compile hf
  obtain ⟨message, hread, -, hnodup, -⟩ := recipient_apart hc
  exact ⟨compiled, message, hc, hread, hnodup.mpr (by decide)⟩

/-- The key of the system program as the sender is in the table twice, and the memo program is
paid by a transfer without a memo. -/
theorem keys_repeat_of_program :
    (∃ compiled message,
      compile ⟨⟨List.replicate 32 0xcc, rfl⟩, 1, ⟨List.replicate 32 0xbb, rfl⟩, none⟩
        systemProgram = .ok compiled ∧
      Message.read compiled.bytes = some message ∧ ¬message.keys.Nodup) ∧
    ∃ compiled message,
      compile ⟨memoProgram, 1, ⟨List.replicate 32 0xbb, rfl⟩, none⟩
        ⟨List.replicate 32 0x11, rfl⟩ = .ok compiled ∧
      Message.read compiled.bytes = some message ∧
      message.orders? = some [.pay ⟨List.replicate 32 0x11, rfl⟩ memoProgram 1] := by
  have hsystem : fault? ⟨⟨List.replicate 32 0xcc, rfl⟩, 1, ⟨List.replicate 32 0xbb, rfl⟩, none⟩
      systemProgram = none := by
    decide
  have hmemo : fault? ⟨memoProgram, 1, ⟨List.replicate 32 0xbb, rfl⟩, none⟩
      ⟨List.replicate 32 0x11, rfl⟩ = none := by
    decide
  constructor
  · obtain ⟨compiled, hc⟩ := exists_compile hsystem
    refine ⟨compiled, _, hc, read_bytes_compile hc, fun hnodup => ?_⟩
    exact (nodup_keys hsystem).mp hnodup (mem_programs.mpr (.inl rfl))
  · obtain ⟨compiled, hc⟩ := exists_compile hmemo
    exact ⟨compiled, _, hc, read_bytes_compile hc, orders?_message _ _⟩

-- ---------------------------------------------------------------------------
-- Room
-- ---------------------------------------------------------------------------

/-- A transfer is refused for its amount or for its recipient and for nothing else. Every other
one is compiled, to a length that is told by its memo, and framed and written behind any
signature. -/
theorem compile_unhindered (request : TransferRequest) (sender : PublicKey) :
    (∃ written, request.write sender = .ok written) ∧
    match request.compile sender with
    | .error fault =>
      (fault = .zeroAmount ∨ fault = .selfTransfer ∨ fault = .programRecipient) ∧
      (request.lamports = 0 ∨ request.recipient = sender ∨ request.recipient = systemProgram ∨
        request.memo.isSome ∧ request.recipient = memoProgram)
    | .ok compiled =>
      ¬(request.lamports = 0 ∨ request.recipient = sender ∨ request.recipient = systemProgram ∨
        request.memo.isSome ∧ request.recipient = memoProgram) ∧
      compiled.bytes.length =
        (match request.memo with
        | some memo => 185 + memo.bytes.length
        | none => 150) ∧
      compiled.bytes.length ≤ 305 ∧
      ∀ signature : Signature, ∃ wire text,
        (SignedTransfer.mk signature compiled).wire = .ok wire ∧
        wire.bytes.length = 65 + compiled.bytes.length ∧
        (SignedTransfer.mk signature compiled).base64 = .ok text := by
  obtain ⟨written, hw, -⟩ := request.exists_write sender
  refine ⟨⟨written, hw⟩, ?_⟩
  cases hc : request.compile sender with
  | error fault =>
    have hf := compile_error hc
    refine ⟨fault?_cases hf, ?_⟩
    by_contra hnone
    rw [← mem_programs] at hnone
    simp only [not_or] at hnone
    rw [fault?_eq_none.mpr hnone] at hf
    contradiction
  | ok compiled =>
    obtain ⟨hf, -, hb⟩ := compile_ok.mp hc
    refine ⟨?_, ?_, ?_, fun signature => ?_⟩
    · simpa only [← mem_programs, not_or] using fault?_eq_none.mp hf
    · rw [hb, length_message]
      cases request.memo <;> simp
    · rw [hb]
      exact request.length_message_le sender
    · have hfits := SignedTransfer.framed_fits (t := ⟨signature, compiled⟩) hc
      obtain ⟨wire, hwire, hframed⟩ := SignedTransfer.exists_wire hfits
      refine ⟨wire, _, hwire, ?_, SignedTransfer.base64_of_fits hfits⟩
      rw [hframed, SignedTransfer.length_framed]

end TransferRequest

end SlotWallet
