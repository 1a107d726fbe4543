import SlotWallet.Proofs.CompactLength
import SlotWallet.Transfer.Message

/-!
# Messages are read back

`Message.bytes` is the byte form of any message of the grammar, and `Message.read`
gives back every message whose counts fit a compact length (`read_bytes`). Each part
of the reader has its law for the written part with anything behind it.
-/

namespace SlotWallet

namespace Message

def counted (bytes : Bytes) : Bytes := CompactLength.encode bytes.length ++ bytes

end Message

namespace Instruction

def bytes (i : Instruction) : Bytes :=
  i.program :: (Message.counted i.accounts ++ Message.counted i.data)

def Fits (i : Instruction) : Prop :=
  i.accounts.length < UInt64.size ∧ i.data.length < UInt64.size

end Instruction

namespace Message

def bytes (m : Message) : Bytes :=
  [m.signers, m.readonlySigned, m.readonlyUnsigned] ++
    CompactLength.encode m.keys.length ++ m.keys.flatMap FixedBytes.bytes ++
    m.blockhash.bytes ++
    CompactLength.encode m.instructions.length ++ m.instructions.flatMap Instruction.bytes

structure Fits (m : Message) : Prop where
  keys : m.keys.length < UInt64.size
  instructions : m.instructions.length < UInt64.size
  each : ∀ i ∈ m.instructions, i.Fits

-- ---------------------------------------------------------------------------
-- The parts of the reader
-- ---------------------------------------------------------------------------

theorem readLength_append {value : Nat} (rest : Bytes) (h : value < UInt64.size) :
    readLength (CompactLength.encode value ++ rest) = some (value, rest) := by
  simp [readLength, CompactLength.decode_encode_append rest h]

theorem readFixed_append {n : Nat} (a : FixedBytes n) (rest : Bytes) :
    readFixed n (a.bytes ++ rest) = some (a, rest) := by
  have ht : (a.bytes ++ rest).take n = a.bytes := List.take_left' a.length_eq
  have hd : (a.bytes ++ rest).drop n = rest := List.drop_left' a.length_eq
  simp [readFixed, ht, hd, FixedBytes.ofBytes?_bytes]

theorem readCounted_append {bytes : Bytes} (rest : Bytes) (h : bytes.length < UInt64.size) :
    readCounted (counted bytes ++ rest) = some (bytes, rest) := by
  rw [counted, List.append_assoc]
  simp [readCounted, readLength_append _ h]

theorem readMany_append {α : Type} {part : Bytes → Option (α × Bytes)} {write : α → Bytes}
    {items : List α} (rest : Bytes)
    (h : ∀ a ∈ items, ∀ rest, part (write a ++ rest) = some (a, rest)) :
    readMany part items.length (items.flatMap write ++ rest) = some (items, rest) := by
  induction items with
  | nil => rfl
  | cons a items ih =>
    have ha := h a List.mem_cons_self (items.flatMap write ++ rest)
    have hi := ih fun b hb => h b (List.mem_cons_of_mem a hb)
    simp [readMany, ha, hi]

theorem readInstruction_append {i : Instruction} (rest : Bytes) (h : i.Fits) :
    readInstruction (i.bytes ++ rest) = some (i, rest) := by
  obtain ⟨ha, hd⟩ := h
  simp only [Instruction.bytes, List.cons_append, List.append_assoc, readInstruction]
  rw [readCounted_append _ ha]
  simp [readCounted_append rest hd]

-- ---------------------------------------------------------------------------
-- The whole message
-- ---------------------------------------------------------------------------

theorem read_bytes {m : Message} (h : m.Fits) : read m.bytes = some m := by
  have hkeys := readMany_append (m.blockhash.bytes ++ (CompactLength.encode m.instructions.length ++
    m.instructions.flatMap Instruction.bytes))
    fun a (_ : a ∈ m.keys) rest => readFixed_append a rest
  have hinstructions := readMany_append []
    fun i hi rest => readInstruction_append rest (h.each i hi)
  simp only [List.append_nil] at hinstructions
  simp only [bytes, List.cons_append, List.nil_append, List.append_assoc, read]
  rw [readLength_append _ h.keys]
  simp [hkeys, readFixed_append, readLength_append _ h.instructions, hinstructions]

theorem bytes_inj {m m' : Message} (h : m.Fits) (h' : m'.Fits) (hb : m.bytes = m'.bytes) :
    m = m' := by
  have hread := read_bytes h
  rw [hb, read_bytes h'] at hread
  exact (Option.some.inj hread).symm

end Message

end SlotWallet
