import SlotWallet.Base64

/-!
# Base64 texts are read back

Reading the padded form of some bytes gives the bytes (`decodeChars_encodeChars`). The
reader has a law for each kind of group, in the values of its digits; a digit is never
taken for a filling.
-/

namespace SlotWallet.Base64

-- ---------------------------------------------------------------------------
-- Digits
-- ---------------------------------------------------------------------------

theorem digitValue?_digit {n : Nat} (h : n < 64) : digitValue? (digit n) = some n := by
  revert n
  decide

theorem digit_ne_filling {n : Nat} (h : n < 64) : digit n ≠ '=' := by
  intro heq
  have hvalue := digitValue?_digit h
  have hfilling : digitValue? '=' = none := by decide
  rw [heq, hfilling] at hvalue
  contradiction

-- ---------------------------------------------------------------------------
-- Groups
-- ---------------------------------------------------------------------------

section Groups

variable {p q r s : Nat} {rest : List Char}

theorem decodeChars_two (hp : p < 64) (hq : q < 64) (hunused : (p * 64 + q) % 16 = 0) :
    decodeChars [digit p, digit q, '=', '='] = some [UInt8.ofNat ((p * 64 + q) / 16)] := by
  simp [decodeChars, digitValue?_digit hp, digitValue?_digit hq, hunused]

theorem decodeChars_three (hp : p < 64) (hq : q < 64) (hr : r < 64)
    (hunused : ((p * 64 + q) * 64 + r) % 4 = 0) :
    decodeChars [digit p, digit q, digit r, '='] =
      some [UInt8.ofNat (((p * 64 + q) * 64 + r) / 1024),
        UInt8.ofNat (((p * 64 + q) * 64 + r) / 4)] := by
  rw [decodeChars.eq_3 _ _ _ (digit_ne_filling hr)]
  simp [digitValue?_digit hp, digitValue?_digit hq, digitValue?_digit hr, hunused]

theorem decodeChars_four (hp : p < 64) (hq : q < 64) (hr : r < 64) (hs : s < 64) {bytes : Bytes}
    (hrest : decodeChars rest = some bytes) :
    decodeChars (digit p :: digit q :: digit r :: digit s :: rest) =
      some (UInt8.ofNat ((((p * 64 + q) * 64 + r) * 64 + s) / 65536) ::
        UInt8.ofNat ((((p * 64 + q) * 64 + r) * 64 + s) / 256) ::
        UInt8.ofNat (((p * 64 + q) * 64 + r) * 64 + s) :: bytes) := by
  have hdigit := digit_ne_filling hs
  rw [decodeChars.eq_4 _ _ _ _ _ (fun _ heq _ => hdigit heq) (fun heq _ => hdigit heq)]
  simp [digitValue?_digit hp, digitValue?_digit hq, digitValue?_digit hr, digitValue?_digit hs,
    hrest]

end Groups

theorem ofNat_eq_of_mod {b : UInt8} {n : Nat} (h : n % 256 = b.toNat) : UInt8.ofNat n = b := by
  rw [← UInt8.toNat_inj, UInt8.toNat_ofNat', h]

theorem decodeChars_encodeChars (bytes : Bytes) : decodeChars (encodeChars bytes) = some bytes := by
  induction bytes using encodeChars.induct with
  | case1 => rfl
  | case2 a =>
    have ha := a.toNat_lt
    rw [encodeChars]
    rw [decodeChars_two (by omega) (by omega) (by omega), ofNat_eq_of_mod (b := a) (by omega)]
  | case3 a b =>
    have ha := a.toNat_lt
    have hb := b.toNat_lt
    rw [encodeChars]
    rw [decodeChars_three (by omega) (by omega) (by omega) (by omega),
      ofNat_eq_of_mod (b := a) (by omega), ofNat_eq_of_mod (b := b) (by omega)]
  | case4 a b c rest ih =>
    have ha := a.toNat_lt
    have hb := b.toNat_lt
    have hc := c.toNat_lt
    rw [encodeChars]
    rw [decodeChars_four (by omega) (by omega) (by omega) (by omega) ih,
      ofNat_eq_of_mod (b := a) (by omega), ofNat_eq_of_mod (b := b) (by omega),
      ofNat_eq_of_mod (b := c) (by omega)]

end SlotWallet.Base64
