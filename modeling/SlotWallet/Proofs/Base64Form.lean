import Mathlib.Algebra.Order.Floor.Div
import SlotWallet.Proofs.Base64
import SlotWallet.Proofs.Utf8Cut

/-!
# The form of base64 texts

A base64 text spells out the bits of some bytes, six to a digit. What is left over of the last
digit is zero, and the text is filled up to whole groups of four characters (`encode_form`).
-/

namespace SlotWallet.Base64

-- ---------------------------------------------------------------------------
-- Bits
-- ---------------------------------------------------------------------------

def bits : Nat → Nat → List Bool
  | 0, _ => []
  | width + 1, n => bits width (n / 2) ++ [n.testBit 0]

theorem bits_add (width low n : Nat) :
    bits (width + low) n = bits width (n / 2 ^ low) ++ bits low n := by
  induction low generalizing n with
  | zero => simp [bits]
  | succ low ih =>
    have hdiv : n / 2 / 2 ^ low = n / 2 ^ (low + 1) := by
      rw [Nat.div_div_eq_div_mul, Nat.pow_succ, Nat.mul_comm]
    simp [bits, ih, hdiv]

theorem bits_mod (width n : Nat) : bits width (n % 2 ^ width) = bits width n := by
  induction width generalizing n with
  | zero => rfl
  | succ width ih =>
    have hdiv : n % 2 ^ (width + 1) / 2 = n / 2 % 2 ^ width := by
      rw [Nat.pow_succ, Nat.mul_comm, Nat.mod_mul_right_div_self]
    simp [bits, hdiv, ih]

theorem bits_congr {width n m : Nat} (h : n % 2 ^ width = m % 2 ^ width) :
    bits width n = bits width m := by
  rw [← bits_mod, h, bits_mod]

theorem bits_six (n : Nat) : bits 6 (n % 64) = bits 6 n := bits_mod 6 n

def digitBits (digits : List Char) : List Bool := digits.flatMap fun c => bits 6 (alphabet.idxOf c)

def byteBits (bytes : Bytes) : List Bool := bytes.flatMap fun b => bits 8 b.toNat

theorem idxOf_digit {n : Nat} (h : n < 64) : alphabet.idxOf (digit n) = n := by
  have hvalue : alphabet.findIdx? (· == digit n) = some n := digitValue?_digit h
  rw [List.idxOf, List.findIdx_eq_getD_findIdx?, hvalue, Option.getD_some]

theorem mem_alphabet_digit {n : Nat} (h : n < 64) : digit n ∈ alphabet := by
  rw [← List.idxOf_lt_length_iff, idxOf_digit h]
  exact h

theorem digitBits_map (sextets : List Nat) (h : ∀ n ∈ sextets, n < 64) :
    digitBits (sextets.map digit) = sextets.flatMap (bits 6) := by
  induction sextets with
  | nil => rfl
  | cons n sextets ih =>
    obtain ⟨hn, hrest⟩ := List.forall_mem_cons.mp h
    simp only [digitBits, List.map_cons, List.flatMap_cons, idxOf_digit hn] at ih ⊢
    rw [ih hrest]

section Regrouped

variable (a : Nat) {b c : Nat}

theorem bits_one :
    bits 6 (a * 16 / 64) ++ bits 6 (a * 16 % 64) = bits 8 a ++ List.replicate 4 false := by
  generalize hn : a * 16 = n
  have ha : bits 8 (n / 16) = bits 8 a := bits_congr (by omega)
  have hzeros : bits 4 n = bits 4 0 := bits_congr (by omega)
  calc bits 6 (n / 64) ++ bits 6 (n % 64)
    _ = bits 12 n := by simp [bits_six, bits_add 6 6]
    _ = bits 8 (n / 16) ++ bits 4 n := bits_add 8 4 n
    _ = bits 8 a ++ List.replicate 4 false := by rw [ha, hzeros]; rfl

theorem bits_two (hb : b < 256) :
    bits 6 ((a * 256 + b) * 4 / 4096) ++ bits 6 ((a * 256 + b) * 4 / 64 % 64) ++
        bits 6 ((a * 256 + b) * 4 % 64) =
      bits 8 a ++ bits 8 b ++ List.replicate 2 false := by
  generalize hn : (a * 256 + b) * 4 = n
  have ha : bits 8 (n / 1024) = bits 8 a := bits_congr (by omega)
  have hb : bits 8 (n / 4) = bits 8 b := bits_congr (by omega)
  have hzeros : bits 2 n = bits 2 0 := bits_congr (by omega)
  calc bits 6 (n / 4096) ++ bits 6 (n / 64 % 64) ++ bits 6 (n % 64)
    _ = bits 18 n := by simp [bits_six, bits_add 12 6, bits_add 6 6, Nat.div_div_eq_div_mul]
    _ = bits 8 (n / 1024) ++ bits 8 (n / 4) ++ bits 2 n := by
      simp [bits_add 16 2, bits_add 8 8, Nat.div_div_eq_div_mul]
    _ = bits 8 a ++ bits 8 b ++ List.replicate 2 false := by rw [ha, hb, hzeros]; rfl

theorem bits_three (hb : b < 256) (hc : c < 256) :
    bits 6 (((a * 256 + b) * 256 + c) / 262144) ++ bits 6 (((a * 256 + b) * 256 + c) / 4096 % 64) ++
        bits 6 (((a * 256 + b) * 256 + c) / 64 % 64) ++ bits 6 (((a * 256 + b) * 256 + c) % 64) =
      bits 8 a ++ bits 8 b ++ bits 8 c := by
  generalize hn : (a * 256 + b) * 256 + c = n
  have ha : bits 8 (n / 65536) = bits 8 a := bits_congr (by omega)
  have hb : bits 8 (n / 256) = bits 8 b := bits_congr (by omega)
  have hc : bits 8 n = bits 8 c := bits_congr (by omega)
  calc bits 6 (n / 262144) ++ bits 6 (n / 4096 % 64) ++ bits 6 (n / 64 % 64) ++ bits 6 (n % 64)
    _ = bits 24 n := by
      simp [bits_six, bits_add 18 6, bits_add 12 6, bits_add 6 6, Nat.div_div_eq_div_mul]
    _ = bits 8 (n / 65536) ++ bits 8 (n / 256) ++ bits 8 n := by
      simp [bits_add 16 8, bits_add 8 8, Nat.div_div_eq_div_mul]
    _ = bits 8 a ++ bits 8 b ++ bits 8 c := by rw [ha, hb, hc]

end Regrouped

-- ---------------------------------------------------------------------------
-- Groups
-- ---------------------------------------------------------------------------

def fillings (bytes : Bytes) : Nat := (3 - bytes.length % 3) % 3

@[simp] theorem fillings_group (a b c : UInt8) (rest : Bytes) :
    fillings (a :: b :: c :: rest) = fillings rest := by
  simp only [fillings, List.length_cons]
  omega

def sextets : Bytes → List Nat
  | [] => []
  | [a] =>
    let n := a.toNat * 16
    [n / 64, n % 64]
  | [a, b] =>
    let n := (a.toNat * 256 + b.toNat) * 4
    [n / 4096, n / 64 % 64, n % 64]
  | a :: b :: c :: rest =>
    let n := (a.toNat * 256 + b.toNat) * 256 + c.toNat
    n / 262144 :: n / 4096 % 64 :: n / 64 % 64 :: n % 64 :: sextets rest

theorem encodeChars_eq (bytes : Bytes) :
    encodeChars bytes = (sextets bytes).map digit ++ List.replicate (fillings bytes) '=' := by
  induction bytes using encodeChars.induct with
  | case1 => rfl
  | case2 a => rfl
  | case3 a b => rfl
  | case4 a b c rest ih => simp [encodeChars, sextets, ih]

theorem length_sextets (bytes : Bytes) :
    (sextets bytes).length + fillings bytes = 4 * (bytes.length ⌈/⌉ 3) := by
  rw [Nat.ceilDiv_eq_add_pred_div]
  induction bytes using sextets.induct with
  | case1 => simp [sextets, fillings]
  | case2 a => simp [sextets, fillings]
  | case3 a b => simp [sextets, fillings]
  | case4 a b c rest ih =>
    simp only [sextets, fillings_group, List.length_cons]
    omega

theorem sextets_lt (bytes : Bytes) : ∀ n ∈ sextets bytes, n < 64 := by
  induction bytes using sextets.induct with
  | case1 => exact nofun
  | case2 a =>
    have ha := a.toNat_lt
    simp only [sextets, List.forall_mem_cons]
    exact ⟨by omega, by omega, nofun⟩
  | case3 a b =>
    have ha := a.toNat_lt
    have hb := b.toNat_lt
    simp only [sextets, List.forall_mem_cons]
    exact ⟨by omega, by omega, by omega, nofun⟩
  | case4 a b c rest ih =>
    have ha := a.toNat_lt
    have hb := b.toNat_lt
    have hc := c.toNat_lt
    simp only [sextets, List.forall_mem_cons]
    exact ⟨by omega, by omega, by omega, by omega, ih⟩

/-- The bits of the digits are those of the bytes, and two zeros for each filling. -/
theorem bits_sextets (bytes : Bytes) :
    (sextets bytes).flatMap (bits 6) =
      byteBits bytes ++ List.replicate (2 * fillings bytes) false := by
  induction bytes using sextets.induct with
  | case1 => rfl
  | case2 a => simpa [sextets, byteBits, fillings] using bits_one a.toNat
  | case3 a b => simpa [sextets, byteBits, fillings] using bits_two a.toNat b.toNat_lt
  | case4 a b c rest ih =>
    have hgroup := bits_three a.toNat b.toNat_lt c.toNat_lt
    simp [sextets, byteBits, ih, ← List.append_assoc, hgroup]

-- ---------------------------------------------------------------------------
-- The form
-- ---------------------------------------------------------------------------

/-- The padded text for some bytes. Behind the digits are the fillings, and the numbers of the
digits spell out the bits of the bytes, with two zeros for each filling. -/
structure Form (bytes : Bytes) (text : String) : Prop where
  length_eq : text.length = 4 * (bytes.length ⌈/⌉ 3)
  byteSize_eq : text.utf8ByteSize = text.length
  spells : ∃ digits, text.toList = digits ++ List.replicate (fillings bytes) '=' ∧
    (∀ c ∈ digits, c ∈ alphabet ∧ c ≠ '=') ∧
    digitBits digits = byteBits bytes ++ List.replicate (2 * fillings bytes) false

theorem utf8Length_eq_length {text : List Char} (h : ∀ c ∈ text, c ∈ alphabet ∨ c = '=') :
    Text.utf8Length text = text.length := by
  have hascii : ('=' :: alphabet).all (fun c => c.toNat ≤ 127) = true := by decide +kernel
  refine Text.utf8Length_of_ascii fun c hc => ?_
  simpa using List.all_eq_true.mp hascii c (List.mem_cons.mpr (h c hc).symm)

theorem form_of_sextets (bytes : Bytes) : Form bytes (encode bytes) := by
  have htext : (encode bytes).toList =
      (sextets bytes).map digit ++ List.replicate (fillings bytes) '=' := by
    simp [encode, encodeChars_eq]
  have hdigits : ∀ c ∈ (sextets bytes).map digit, c ∈ alphabet ∧ c ≠ '=' := by
    intro c hc
    obtain ⟨n, hn, rfl⟩ := List.mem_map.mp hc
    have hlt := sextets_lt bytes n hn
    exact ⟨mem_alphabet_digit hlt, digit_ne_filling hlt⟩
  refine ⟨?_, ?_, _, htext, hdigits, ?_⟩
  · rw [← String.length_toList, htext]
    simpa using length_sextets bytes
  · rw [Text.utf8ByteSize_eq, ← String.length_toList]
    apply utf8Length_eq_length
    intro c hc
    rw [htext, List.mem_append] at hc
    rcases hc with hdigit | hfilling
    · exact .inl (hdigits c hdigit).1
    · exact .inr (List.eq_of_mem_replicate hfilling)
  · rw [digitBits_map _ (sextets_lt bytes), bits_sextets]

/-- Writing gives the padded form, which reads back to the bytes, so that no two byte strings
are written alike. -/
theorem encode_form :
    (∀ bytes, Form bytes (encode bytes) ∧ decodeChars (encode bytes).toList = some bytes) ∧
      Function.Injective encode := by
  have hread : ∀ bytes, decodeChars (encode bytes).toList = some bytes := by
    intro bytes
    rw [encode, String.toList_ofList, decodeChars_encodeChars]
  refine ⟨fun bytes => ⟨form_of_sextets bytes, hread bytes⟩, ?_⟩
  intro first second heq
  apply Option.some.inj
  rw [← hread first, heq, hread second]

example : encode [0x66] = "Zg==" := by decide +kernel

end SlotWallet.Base64
