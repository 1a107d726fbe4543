import SlotWallet.Proofs.Message
import SlotWallet.Transfer.Signed

/-!
# Transfers are read back

A transfer that is not refused has a message (`compile_ok`): none of the
appends fails, and the bytes are those of `TransferRequest.message`. So the reader
of the grammar gives back what the transfer was built from, and a byte string is
the message of one transfer at most.
-/

namespace SlotWallet

-- ---------------------------------------------------------------------------
-- Appends that fit
-- ---------------------------------------------------------------------------

namespace WireBuffer

theorem foldlM_append_ok {parts : List Bytes} {b : WireBuffer}
    (h : b.bytes.length + parts.flatten.length ≤ b.capacity) :
    ∃ b', parts.foldlM append b = .ok b' ∧ b'.capacity = b.capacity ∧
      b'.bytes = b.bytes ++ parts.flatten := by
  induction parts generalizing b with
  | nil => exact ⟨b, rfl, rfl, by simp⟩
  | cons part parts ih =>
    simp only [List.flatten_cons, List.length_append] at h
    have happend := @append_ok b part (by omega)
    have hnext : (b.bytes ++ part).length + parts.flatten.length ≤ b.capacity := by
      rw [List.length_append]
      omega
    obtain ⟨b', hb', hc, hbytes⟩ := ih (b := ⟨b.capacity, b.bytes ++ part, by omega⟩) hnext
    refine ⟨b', ?_, hc, by simp [hbytes]⟩
    rw [List.foldlM_cons, happend]
    exact hb'

end WireBuffer

namespace Memo

theorem length_chars_lt (memo : Memo) : memo.chars.length < 128 :=
  Nat.lt_of_le_of_lt memo.length_le (by decide)

theorem map_bytes (memo : Memo) : memo.bytes.map (fun b => Char.ofNat b.toNat) = memo.chars := by
  rw [bytes, List.map_map]
  refine (List.map_congr_left fun c hc => ?_).trans (List.map_id _)
  have hprintable : isPrintableAscii c = true := List.all_eq_true.mp memo.printable c hc
  simp only [isPrintableAscii, Bool.and_eq_true, decide_eq_true_eq] at hprintable
  have hbyte : (UInt8.ofNat c.toNat).toNat = c.toNat := by
    rw [UInt8.toNat_ofNat']
    omega
  simp [hbyte]

theorem bytes_inj {memo memo' : Memo} (h : memo.bytes = memo'.bytes) : memo = memo' := by
  have hchars : memo.chars = memo'.chars := by rw [← map_bytes, h, map_bytes]
  cases memo
  cases memo'
  simpa using hchars

end Memo

namespace TransferRequest

variable {request : TransferRequest} {sender : PublicKey}

def message (request : TransferRequest) (sender : PublicKey) : Message where
  signers := 1
  readonlySigned := 0
  readonlyUnsigned := if request.memo.isSome then 2 else 1
  keys := request.keys sender
  blockhash := request.blockhash
  instructions := ⟨2, [0, 1], request.transferData⟩ ::
    (request.memo.map fun memo => ⟨3, [], memo.bytes⟩).toList

/-- The appends that write a transfer, in order. -/
def parts (request : TransferRequest) (sender : PublicKey) : List Bytes :=
  [[1, 0, UInt8.ofNat ((request.keys sender).length - 2)],
    CompactLength.encode (request.keys sender).length] ++
  (request.keys sender).map FixedBytes.bytes ++
  [request.blockhash.bytes, CompactLength.encode (if request.memo.isSome then 2 else 1),
    [2], CompactLength.encode 2, [0, 1],
    CompactLength.encode request.transferData.length, request.transferData] ++
  match request.memo with
  | some memo => [[3], CompactLength.encode 0, CompactLength.encode memo.bytes.length, memo.bytes]
  | none => []

theorem write_eq_foldlM (request : TransferRequest) (sender : PublicKey) :
    request.write sender =
      (request.parts sender).foldlM WireBuffer.append (WireBuffer.empty messageCapacity) := by
  obtain ⟨recipient, lamports, blockhash, memo⟩ := request
  cases memo <;>
    simp [write, parts, pushMemo, WireBuffer.push_eq_append, WireBuffer.pushLength_eq_append,
      List.foldlM_append, List.foldlM_map]

@[simp] theorem length_transferData (request : TransferRequest) :
    request.transferData.length = 12 := by
  simp [transferData, transferTag]

theorem flatten_parts (request : TransferRequest) (sender : PublicKey) :
    (request.parts sender).flatten = (request.message sender).bytes := by
  obtain ⟨recipient, lamports, blockhash, memo⟩ := request
  cases memo <;> simp [parts, message, keys, Message.bytes, Message.counted, Instruction.bytes]

theorem length_message (request : TransferRequest) (sender : PublicKey) :
    (request.message sender).bytes.length =
      match request.memo with
      | some memo => 185 + memo.chars.length
      | none => 150 := by
  obtain ⟨recipient, lamports, blockhash, memo⟩ := request
  cases memo with
  | none =>
    simp [message, keys, Message.bytes, Message.counted, Instruction.bytes,
      CompactLength.encode_of_lt, FixedBytes.length_eq]
  | some memo =>
    have hlt := memo.length_chars_lt
    simp [message, keys, Message.bytes, Message.counted, Instruction.bytes,
      CompactLength.encode_of_lt, FixedBytes.length_eq, hlt]
    omega

theorem length_message_le (request : TransferRequest) (sender : PublicKey) :
    (request.message sender).bytes.length ≤ 305 := by
  rw [length_message]
  split
  · rename_i memo _
    have := memo.length_le
    omega
  · decide

theorem fits_message (request : TransferRequest) (sender : PublicKey) :
    (request.message sender).Fits where
  keys := by
    simp only [message, keys]
    split <;> simp [UInt64.size]
  instructions := by
    simp only [message]
    cases request.memo <;> simp [UInt64.size]
  each := by
    intro i hi
    simp only [message, List.mem_cons, Option.mem_toList, Option.map_eq_some_iff] at hi
    obtain rfl | ⟨memo, -, rfl⟩ := hi
    · simp [Instruction.Fits, UInt64.size]
    · have := memo.length_chars_lt
      simp only [Instruction.Fits, Memo.length_bytes, List.length_nil, UInt64.size]
      omega

theorem exists_write (request : TransferRequest) (sender : PublicKey) :
    ∃ written, request.write sender = .ok written ∧ written.capacity = messageCapacity ∧
      written.bytes = (request.message sender).bytes := by
  have hle := request.length_message_le sender
  obtain ⟨written, hwrite, hcapacity, hbytes⟩ :=
    @WireBuffer.foldlM_append_ok (request.parts sender) (WireBuffer.empty messageCapacity) (by
      rw [flatten_parts]
      simp only [WireBuffer.empty, List.length_nil, messageCapacity]
      omega)
  rw [flatten_parts] at hbytes
  exact ⟨written, (request.write_eq_foldlM sender).trans hwrite, hcapacity, hbytes⟩

theorem compile_ok {compiled : WireBuffer} :
    request.compile sender = .ok compiled ↔
      request.fault? sender = none ∧ compiled.capacity = messageCapacity ∧
        compiled.bytes = (request.message sender).bytes := by
  obtain ⟨written, hwrite, hcapacity, hbytes⟩ := request.exists_write sender
  unfold compile
  cases hfault : request.fault? sender with
  | some fault => simp [throw, throwThe, MonadExceptOf.throw]
  | none =>
    simp only [hwrite, Except.ok.injEq, true_and]
    constructor
    · rintro rfl
      exact ⟨hcapacity, hbytes⟩
    · rintro ⟨hc, hb⟩
      cases written
      cases compiled
      simp_all

theorem exists_compile (h : request.fault? sender = none) :
    ∃ compiled, request.compile sender = .ok compiled :=
  have hle : (request.message sender).bytes.length ≤ messageCapacity :=
    Nat.le_trans (request.length_message_le sender) (by decide)
  ⟨⟨messageCapacity, (request.message sender).bytes, hle⟩, compile_ok.mpr ⟨h, rfl, rfl⟩⟩

-- ---------------------------------------------------------------------------
-- Reading a compiled transfer
-- ---------------------------------------------------------------------------

theorem read_bytes_compile {compiled : WireBuffer} (h : request.compile sender = .ok compiled) :
    Message.read compiled.bytes = some (request.message sender) := by
  obtain ⟨-, -, hbytes⟩ := compile_ok.mp h
  rw [hbytes]
  exact Message.read_bytes (request.fits_message sender)

theorem message_keys (request : TransferRequest) (sender : PublicKey) :
    (request.message sender).keys = [sender, request.recipient, systemProgram] ++
      (request.memo.map fun _ => memoProgram).toList := by
  simp only [message, keys]
  cases request.memo <;> rfl

theorem take_drop_message (request : TransferRequest) (sender : PublicKey) :
    ((request.message sender).bytes.drop 4).take 32 = sender.bytes := by
  have hlength : (request.keys sender).length < 128 := by
    rw [keys]
    split <;> simp
  have hkeys : request.keys sender = sender :: (request.keys sender).tail := rfl
  simp only [Message.bytes, message, CompactLength.encode_of_lt hlength]
  rw [hkeys]
  simp [sender.length_eq]

theorem index_lt_keys {i : Instruction} {index : UInt8}
    (hi : i ∈ (request.message sender).instructions) (hindex : index ∈ i.program :: i.accounts) :
    index.toNat < (request.message sender).keys.length := by
  rw [message_keys]
  simp only [message, List.mem_cons, Option.mem_toList, Option.map_eq_some_iff] at hi
  obtain rfl | ⟨memo, hmemo, rfl⟩ := hi
  · have hlt : index.toNat < 3 := by
      simp only [List.mem_cons, List.not_mem_nil, or_false] at hindex
      rcases hindex with rfl | rfl | rfl <;> decide
    rw [List.length_append]
    exact Nat.lt_add_right _ hlt
  · simp only [List.mem_cons, List.not_mem_nil, or_false] at hindex
    subst hindex
    simp [hmemo]

theorem message_inj {request' : TransferRequest} {sender' : PublicKey}
    (h : request.message sender = request'.message sender') :
    sender = sender' ∧ request = request' := by
  have hkeys := congrArg Message.keys h
  have hblockhash : request.blockhash = request'.blockhash := congrArg Message.blockhash h
  have hinstructions := congrArg Message.instructions h
  rw [message_keys, message_keys] at hkeys
  simp only [List.cons_append, List.nil_append, List.cons.injEq, true_and] at hkeys
  obtain ⟨hsender, hrecipient, -⟩ := hkeys
  simp only [message, List.cons.injEq, Instruction.mk.injEq, true_and] at hinstructions
  obtain ⟨hdata, hmemo⟩ := hinstructions
  have hlamports : request.lamports = request'.lamports := by
    have hle := List.append_cancel_left hdata
    have hvalue := congrArg Bytes.littleEndian hle
    rw [Bytes.littleEndian_ofLittleEndian request.lamports.toNat_lt,
      Bytes.littleEndian_ofLittleEndian request'.lamports.toNat_lt] at hvalue
    exact UInt64.toNat_inj.mp hvalue
  have hmemo : request.memo = request'.memo := by
    cases hm : request.memo <;> cases hm' : request'.memo <;> simp [hm, hm'] at hmemo
    · rfl
    · rw [Memo.bytes_inj hmemo]
  obtain ⟨recipient, lamports, blockhash, memo⟩ := request
  obtain ⟨recipient', lamports', blockhash', memo'⟩ := request'
  simp_all

/-- The reader consumes a compiled message to its last byte and finds the transfer
in it: one signer, the keys in their order, the blockhash, the payment and the memo
if there is one, each index within the table. So no other transfer compiles to the
same bytes. -/
theorem read_compile {compiled : WireBuffer} (h : request.compile sender = .ok compiled) :
    (∃ message amount, Message.read compiled.bytes = some message ∧
      message.signers = 1 ∧ message.readonlySigned = 0 ∧
      message.readonlyUnsigned.toNat = message.keys.length - 2 ∧
      message.keys = [sender, request.recipient, systemProgram] ++
        (request.memo.map fun _ => memoProgram).toList ∧
      message.blockhash = request.blockhash ∧
      message.instructions = ⟨2, [0, 1], [2, 0, 0, 0] ++ amount⟩ ::
        (request.memo.map fun memo => ⟨3, [], memo.bytes⟩).toList ∧
      amount.length = 8 ∧ Bytes.littleEndian amount = request.lamports.toNat ∧
      ∀ i ∈ message.instructions, ∀ index ∈ i.program :: i.accounts,
        index.toNat < message.keys.length) ∧
    ∀ (other : TransferRequest) (payer : PublicKey) (compiled' : WireBuffer),
      other.compile payer = .ok compiled' → compiled'.bytes = compiled.bytes →
        payer = sender ∧ other = request := by
  refine ⟨⟨request.message sender, Bytes.ofLittleEndian 8 request.lamports.toNat,
    read_bytes_compile h, rfl, rfl, ?_, request.message_keys sender, rfl, rfl,
    Bytes.length_ofLittleEndian _ _, Bytes.littleEndian_ofLittleEndian request.lamports.toNat_lt,
    fun i hi index hindex => index_lt_keys hi hindex⟩, ?_⟩
  · rw [message_keys]
    simp only [message]
    cases request.memo <;> rfl
  · intro other payer compiled' h' hbytes
    obtain ⟨-, -, hm⟩ := compile_ok.mp h
    obtain ⟨-, -, hm'⟩ := compile_ok.mp h'
    rw [hm, hm'] at hbytes
    have hsame := Message.bytes_inj (other.fits_message payer) (request.fits_message sender) hbytes
    exact message_inj hsame

/-- A payment of 5000 with the memo `hi` has four keys and two instructions. -/
theorem read_compile_hi :
    ∃ compiled message,
      TransferRequest.compile ⟨⟨List.replicate 32 0xcc, rfl⟩, 5000, ⟨List.replicate 32 0xbb, rfl⟩,
        some ⟨['h', 'i'], by decide, by decide, by decide⟩⟩ ⟨List.replicate 32 0x11, rfl⟩ =
          .ok compiled ∧
      Message.read compiled.bytes = some message ∧
      message.keys.length = 4 ∧ message.instructions.length = 2 := by
  have hfault : TransferRequest.fault? ⟨⟨List.replicate 32 0xcc, rfl⟩, 5000,
      ⟨List.replicate 32 0xbb, rfl⟩, some ⟨['h', 'i'], by decide, by decide, by decide⟩⟩
      ⟨List.replicate 32 0x11, rfl⟩ = none := by
    decide
  obtain ⟨compiled, h⟩ := exists_compile hfault
  obtain ⟨⟨message, amount, hread, -, -, -, hkeys, -, hinstructions, -⟩, -⟩ := read_compile h
  exact ⟨compiled, message, h, hread, by rw [hkeys]; rfl, by rw [hinstructions]; rfl⟩

end TransferRequest

-- ---------------------------------------------------------------------------
-- What a message brings about
-- ---------------------------------------------------------------------------

/-- What an instruction of a message brings about. -/
inductive Order where
  | pay (payer payee : PublicKey) (lamports : Nat)
  | note (text : Bytes)

namespace Message

/-- What the program that an instruction calls does with it. Of the system program only
transfers are known here. -/
def order? (m : Message) (i : Instruction) : Option Order := do
  let program ← m.keys[i.program.toNat]?
  let accounts ← i.accounts.mapM fun account => m.keys[account.toNat]?
  if program = systemProgram then
    match accounts, i.data with
    | [payer, payee], 2 :: 0 :: 0 :: 0 :: amount =>
      if amount.length = 8 then some (.pay payer payee (Bytes.littleEndian amount)) else none
    | _, _ => none
  else if program = memoProgram then some (.note i.data)
  else none

def orders? (m : Message) : Option (List Order) := m.instructions.mapM m.order?

end Message

namespace TransferRequest

variable (request : TransferRequest) (sender : PublicKey)

/-- A transfer pays its recipient and nobody else, and leaves its memo and no other. -/
theorem orders?_message :
    (request.message sender).orders? =
      some (.pay sender request.recipient request.lamports.toNat ::
        (request.memo.map fun memo => Order.note memo.bytes).toList) := by
  have hamount : Bytes.littleEndian (Bytes.ofLittleEndian 8 request.lamports.toNat) =
      request.lamports.toNat :=
    Bytes.littleEndian_ofLittleEndian request.lamports.toNat_lt
  have hpay : (request.message sender).order? ⟨2, [0, 1], request.transferData⟩ =
      some (.pay sender request.recipient request.lamports.toNat) := by
    simp [Message.order?, message_keys, transferData, TransferRequest.transferTag, hamount]
  have hnote : ∀ memo, request.memo = some memo →
      (request.message sender).order? ⟨3, [], memo.bytes⟩ = some (.note memo.bytes) := by
    intro memo hmemo
    have hne : memoProgram ≠ systemProgram := by decide
    simp [Message.order?, message_keys, hmemo, hne]
  cases hmemo : request.memo with
  | none =>
    have hinstructions : (request.message sender).instructions =
        [⟨2, [0, 1], request.transferData⟩] := by
      simp [message, hmemo]
    simp [Message.orders?, hinstructions, hpay]
  | some memo =>
    have hinstructions : (request.message sender).instructions =
        [⟨2, [0, 1], request.transferData⟩, ⟨3, [], memo.bytes⟩] := by
      simp [message, hmemo]
    simp [Message.orders?, hinstructions, hpay, hnote memo hmemo]

end TransferRequest

end SlotWallet
