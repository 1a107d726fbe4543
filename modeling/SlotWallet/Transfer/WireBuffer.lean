import SlotWallet.Transfer.CompactLength

/-!
# Bounded buffers

A buffer never grows beyond its capacity. An append that does not fit is refused
as a whole.
-/

namespace SlotWallet

structure WireBuffer where
  capacity : Nat
  bytes : Bytes
  length_le : bytes.length ≤ capacity

namespace WireBuffer

def empty (capacity : Nat) : WireBuffer := ⟨capacity, [], Nat.zero_le _⟩

def extend (b : WireBuffer) (data : Bytes) : Except InputFault Unit × WireBuffer :=
  if h : b.bytes.length + data.length ≤ b.capacity then
    (.ok (), ⟨b.capacity, b.bytes ++ data, by simpa using h⟩)
  else (.error (.bufferFull data.length b.capacity), b)

def extendByte (b : WireBuffer) (byte : UInt8) : Except InputFault Unit × WireBuffer :=
  b.extend [byte]

def extendLength (b : WireBuffer) (value : Nat) : Except InputFault Unit × WireBuffer :=
  b.extend (CompactLength.encode value)

/-- What is left where a buffer is given up as soon as an append to it fails. -/
def kept : Except InputFault Unit × WireBuffer → Except InputFault WireBuffer
  | (.ok (), extended) => .ok extended
  | (.error fault, _) => .error fault

def append (b : WireBuffer) (data : Bytes) : Except InputFault WireBuffer := kept (b.extend data)

def push (b : WireBuffer) (byte : UInt8) : Except InputFault WireBuffer := kept (b.extendByte byte)

def pushLength (b : WireBuffer) (value : Nat) : Except InputFault WireBuffer :=
  kept (b.extendLength value)

theorem push_eq_append (b : WireBuffer) (byte : UInt8) : b.push byte = b.append [byte] := rfl

theorem pushLength_eq_append (b : WireBuffer) (value : Nat) :
    b.pushLength value = b.append (CompactLength.encode value) := rfl

theorem extend_of_le {b : WireBuffer} {data : Bytes}
    (h : b.bytes.length + data.length ≤ b.capacity) :
    b.extend data = (.ok (), ⟨b.capacity, b.bytes ++ data, by simpa using h⟩) :=
  dif_pos h

theorem extend_of_lt {b : WireBuffer} {data : Bytes}
    (h : b.capacity < b.bytes.length + data.length) :
    b.extend data = (.error (.bufferFull data.length b.capacity), b) :=
  dif_neg (Nat.not_le.mpr h)

theorem append_ok {b : WireBuffer} {data : Bytes} (h : b.bytes.length + data.length ≤ b.capacity) :
    b.append data = .ok ⟨b.capacity, b.bytes ++ data, by simpa using h⟩ := by
  rw [append, extend_of_le h, kept]

end WireBuffer

end SlotWallet
