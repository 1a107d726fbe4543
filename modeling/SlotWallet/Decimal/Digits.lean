/-!
# Decimal digits

Numbers in texts are ASCII digits, the most significant first. Reading back what
`ofNat` writes gives the number, and so does reading it behind any zeros.
-/

namespace SlotWallet.Decimal

def digit (d : Nat) : Char := Char.ofNat (48 + d)

def digitValue (c : Char) : Nat := c.toNat - 48

def ofNat (n : Nat) : List Char :=
  if n < 10 then [digit n] else ofNat (n / 10) ++ [digit (n % 10)]
termination_by n

def powerOfTen (e : Nat) : Nat := Nat.pow 10 e

def valueFrom (upper : Nat) (digits : List Char) : Nat :=
  digits.foldl (fun n c => 10 * n + digitValue c) upper

def value (digits : List Char) : Nat := valueFrom 0 digits

def value? (digits : List Char) : Option Nat :=
  if digits ≠ [] ∧ digits.all Char.isDigit then some (value digits) else none

/-- The number written by ASCII digits, with or without a plus sign, if it is at most `limit`. -/
def readUnsigned? (limit : Nat) (text : List Char) : Option Nat :=
  let digits := match text with
    | '+' :: rest => rest
    | _ => text
  (value? digits).bind fun n => if n ≤ limit then some n else none

theorem digitValue_digit {d : Nat} (h : d < 10) : digitValue (digit d) = d := by
  revert d; decide

theorem isDigit_digit {d : Nat} (h : d < 10) : (digit d).isDigit = true := by
  revert d; decide

theorem valueFrom_append (upper : Nat) (a b : List Char) :
    valueFrom upper (a ++ b) = valueFrom (valueFrom upper a) b := by
  simp [valueFrom]

theorem value_ofNat (n : Nat) : value (ofNat n) = n := by
  fun_induction ofNat n with
  | case1 n h => simp [value, valueFrom, digitValue_digit h]
  | case2 n h ih =>
    have hd : n % 10 < 10 := Nat.mod_lt _ (by decide)
    rw [value] at ih
    rw [value, valueFrom_append, ih, valueFrom]
    simp only [List.foldl_cons, List.foldl_nil, digitValue_digit hd]
    omega

theorem all_isDigit_ofNat (n : Nat) : (ofNat n).all Char.isDigit = true := by
  fun_induction ofNat n with
  | case1 n h => simp [isDigit_digit h]
  | case2 n h ih =>
    have hd : n % 10 < 10 := Nat.mod_lt _ (by decide)
    simp [ih, isDigit_digit hd]

theorem isDigit_of_mem_ofNat {n : Nat} {c : Char} (h : c ∈ ofNat n) : c.isDigit = true :=
  List.all_eq_true.mp (all_isDigit_ofNat n) c h

theorem ofNat_ne_nil (n : Nat) : ofNat n ≠ [] := by
  unfold ofNat
  split <;> simp

theorem value?_ofNat (n : Nat) : value? (ofNat n) = some n := by
  simp [value?, ofNat_ne_nil, all_isDigit_ofNat, value_ofNat]

theorem readUnsigned?_plus (limit : Nat) (digits : List Char) :
    readUnsigned? limit ('+' :: digits) =
      (value? digits).bind fun n => if n ≤ limit then some n else none := rfl

theorem readUnsigned?_of_head {text : List Char} (limit : Nat) (h : text.head? ≠ some '+') :
    readUnsigned? limit text = (value? text).bind fun n => if n ≤ limit then some n else none := by
  unfold readUnsigned?
  split
  · simp at h
  · rfl

theorem readUnsigned?_singleton (limit : Nat) (c : Char) :
    readUnsigned? limit [c] =
      if c.isDigit ∧ digitValue c ≤ limit then some (digitValue c) else none := by
  by_cases hplus : c = '+'
  · rw [hplus, readUnsigned?_plus]
    rfl
  · rw [readUnsigned?_of_head limit (by simpa using hplus)]
    by_cases hdigit : c.isDigit = true <;> simp [value?, value, valueFrom, hdigit]

def padded (width n : Nat) : List Char :=
  let digits := ofNat n
  List.replicate (width - digits.length) '0' ++ digits

theorem value_padded (width n : Nat) : value (padded width n) = n := by
  have hz : ∀ k, valueFrom 0 (List.replicate k '0') = 0 := by
    intro k
    induction k with
    | zero => rfl
    | succ k ih =>
      rw [List.replicate_succ', valueFrom_append, ih]
      rfl
  rw [padded, value, valueFrom_append, hz]
  exact value_ofNat n

def ofInt : Int → List Char
  | .ofNat n => ofNat n
  | .negSucc n => '-' :: ofNat (n + 1)

end SlotWallet.Decimal
