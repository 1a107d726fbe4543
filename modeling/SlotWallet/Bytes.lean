/-!
# Byte strings

Byte strings are lists, so that every layout below is an append. Keys, nonces
and tags have a length in their type.
-/

namespace SlotWallet

abbrev Bytes := List UInt8

structure FixedBytes (n : Nat) where
  bytes : Bytes
  length_eq : bytes.length = n
deriving DecidableEq

namespace FixedBytes

variable {n : Nat}

theorem ext_bytes {a b : FixedBytes n} (h : a.bytes = b.bytes) : a = b := by
  cases a; cases b; cases h; rfl

def ofBytes? (bytes : Bytes) : Option (FixedBytes n) :=
  if h : bytes.length = n then some ⟨bytes, h⟩ else none

theorem ofBytes?_bytes (a : FixedBytes n) : ofBytes? a.bytes = some a := by
  simp [ofBytes?, a.length_eq]

theorem ofBytes?_eq_some_iff {bytes : Bytes} {a : FixedBytes n} :
    ofBytes? bytes = some a ↔ bytes = a.bytes := by
  constructor
  · intro h
    unfold ofBytes? at h
    split at h
    · cases h; rfl
    · contradiction
  · rintro rfl
    exact ofBytes?_bytes a

def zero (n : Nat) : FixedBytes n := ⟨List.replicate n 0, List.length_replicate⟩

def take (a : FixedBytes n) (m : Nat) (h : m ≤ n) : FixedBytes m :=
  ⟨a.bytes.take m, by simp [a.length_eq, h]⟩

def append {m : Nat} (a : FixedBytes n) (b : FixedBytes m) : FixedBytes (n + m) :=
  ⟨a.bytes ++ b.bytes, by simp [a.length_eq, b.length_eq]⟩

theorem take_append {m : Nat} (a : FixedBytes n) (b : FixedBytes m) :
    (a.append b).take n (Nat.le_add_right n m) = a := by
  apply ext_bytes
  simp [append, take, a.length_eq]

def firstHalf (a : FixedBytes (n + n)) : FixedBytes n := a.take n (Nat.le_add_right n n)

theorem firstHalf_append (a b : FixedBytes n) : (a.append b).firstHalf = a := take_append a b

def xor (a b : FixedBytes n) : FixedBytes n :=
  ⟨List.zipWith (· ^^^ ·) a.bytes b.bytes, by simp [a.length_eq, b.length_eq]⟩

theorem zipWith_xor_cancel (xs ys : Bytes) (h : xs.length = ys.length) :
    List.zipWith (· ^^^ ·) (List.zipWith (· ^^^ ·) xs ys) ys = xs := by
  induction xs generalizing ys with
  | nil => simp
  | cons x xs ih =>
    cases ys with
    | nil => simp at h
    | cons y ys =>
      simp only [List.length_cons, Nat.add_right_cancel_iff] at h
      rw [List.zipWith_cons_cons, List.zipWith_cons_cons, ih ys h, UInt8.xor_assoc,
        UInt8.xor_self, UInt8.xor_zero]

theorem xor_xor_cancel (a b : FixedBytes n) : (a.xor b).xor b = a := by
  apply ext_bytes
  exact zipWith_xor_cancel a.bytes b.bytes (by rw [a.length_eq, b.length_eq])

end FixedBytes

namespace Bytes

/-- The number whose base-256 digits are `bytes`, the least significant first. -/
def littleEndian : Bytes → Nat
  | [] => 0
  | b :: rest => b.toNat + 256 * littleEndian rest

def ofLittleEndian : Nat → Nat → Bytes
  | 0, _ => []
  | count + 1, value => UInt8.ofNat value :: ofLittleEndian count (value / 256)

@[simp] theorem length_ofLittleEndian (count value : Nat) :
    (ofLittleEndian count value).length = count := by
  induction count generalizing value with
  | zero => rfl
  | succ count ih => simp [ofLittleEndian, ih]

theorem shiftLeft_byte (count : Nat) : 1 <<< (8 * (count + 1)) = 256 * (1 <<< (8 * count)) := by
  rw [Nat.mul_succ]
  simp only [Nat.shiftLeft_succ]
  omega

theorem littleEndian_lt (bytes : Bytes) : littleEndian bytes < 1 <<< (8 * bytes.length) := by
  induction bytes with
  | nil => decide
  | cons b rest ih =>
    have hb : b.toNat < 256 := b.toNat_lt
    rw [littleEndian, List.length_cons, shiftLeft_byte]
    omega

theorem littleEndian_ofLittleEndian {count value : Nat} (h : value < 1 <<< (8 * count)) :
    littleEndian (ofLittleEndian count value) = value := by
  induction count generalizing value with
  | zero =>
    have h0 : value = 0 := Nat.lt_one_iff.1 h
    rw [h0, ofLittleEndian, littleEndian]
  | succ count ih =>
    rw [shiftLeft_byte] at h
    have hq : value / 256 < 1 <<< (8 * count) := by omega
    rw [ofLittleEndian, littleEndian, ih hq, UInt8.toNat_ofNat']
    omega

def bigEndian (bytes : Bytes) : Nat :=
  bytes.foldl (fun n b => 256 * n + b.toNat) 0

def hexDigit (n : Nat) : Char :=
  if n < 10 then Char.ofNat (48 + n) else Char.ofNat (87 + n)

def hex (bytes : Bytes) : String :=
  String.ofList (bytes.flatMap fun b => [hexDigit (b.toNat / 16), hexDigit (b.toNat % 16)])

end Bytes

end SlotWallet
