import SlotWallet.Bytes
import SlotWallet.Error

/-!
# Compact lengths

A number in base 128, the lowest digit first; every byte but the last has its
high bit set. Reading accepts at most ten bytes and 64 bits, and also forms that
are longer than needed.
-/

namespace SlotWallet.CompactLength

def encode (value : Nat) : Bytes :=
  if value < 128 then [UInt8.ofNat value]
  else UInt8.ofNat (value % 128 + 128) :: encode (value / 128)
termination_by value
decreasing_by omega

/-- Reads from the digit with number `index` on; `value` is what lies before it.
Gives the number and how many bytes it took. -/
def decodeFrom (index value : Nat) : Bytes → Except InputFault (Nat × Nat)
  | [] => throw .compactLength
  | byte :: rest =>
    let next := value + (byte.toNat % 128) <<< (7 * index)
    if index < 10 ∧ next < UInt64.size then
      if byte.toNat < 128 then pure (next, index + 1) else decodeFrom (index + 1) next rest
    else throw .compactLength

def decode (bytes : Bytes) : Except InputFault (Nat × Nat) := decodeFrom 0 0 bytes

end SlotWallet.CompactLength
