import SlotWallet.Bytes
import SlotWallet.Error

/-!
# The system's random source

A source is the bytes it is still going to give. A draw takes the next ones, and
a draw that finds too few fails and is never made up for.
-/

namespace SlotWallet

abbrev Drawing := StateT Bytes (Except WalletError)

def draw (n : Nat) : Drawing (FixedBytes n) := fun source =>
  match FixedBytes.ofBytes? (source.take n) with
  | some bytes => .ok (bytes, source.drop n)
  | none => .error .crypto

theorem draw_append {n : Nat} (bytes : FixedBytes n) (rest : Bytes) :
    draw n (bytes.bytes ++ rest) = .ok (bytes, rest) := by
  have h1 : (bytes.bytes ++ rest).take n = bytes.bytes := by
    rw [List.take_append_of_le_length (Nat.le_of_eq bytes.length_eq.symm)]
    exact List.take_of_length_le (Nat.le_of_eq bytes.length_eq)
  have h2 : (bytes.bytes ++ rest).drop n = rest := by
    rw [List.drop_append_of_le_length (Nat.le_of_eq bytes.length_eq.symm),
      List.drop_of_length_le (Nat.le_of_eq bytes.length_eq), List.nil_append]
  simp [draw, h1, h2, FixedBytes.ofBytes?_bytes]

end SlotWallet
