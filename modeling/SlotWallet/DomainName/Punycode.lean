/-!
# Letters as digits

A text beyond ASCII in ASCII letters, digits and hyphens: its ASCII characters,
a hyphen if there are any, and then the other characters in the order of their
code points, as numbers that say how many places to go on. A number has its lowest
digit first; below a threshold that moves with the numbers before it a digit is
the last one.
-/

namespace SlotWallet.DomainName.Punycode

def base : Nat := 36

def lowestThreshold : Nat := 1

def highestThreshold : Nat := 26

def firstBias : Nat := 72

def firstCode : Nat := 128

def limit : Nat := 0xFFFFFFFF

def digit? (c : Char) : Option Nat :=
  if 97 ≤ c.toNat ∧ c.toNat ≤ 122 then some (c.toNat - 97)
  else if 65 ≤ c.toNat ∧ c.toNat ≤ 90 then some (c.toNat - 65)
  else if c.isDigit then some (c.toNat - 48 + 26)
  else none

def threshold (bias place : Nat) : Nat :=
  let k := base * place
  if k ≤ bias then lowestThreshold
  else if bias + highestThreshold ≤ k then highestThreshold
  else k - bias

/-- Reads one number onto `sum`. The digit at `place` counts `weight` times. -/
def readNumber? (bias : Nat) (place weight sum : Nat) : List Char → Option (Nat × List Char)
  | [] => none
  | c :: rest =>
    match digit? c with
    | none => none
    | some digit =>
      let least := threshold bias place
      if (limit - sum) / weight < digit then none
      else if digit < least then some (sum + digit * weight, rest)
      else if limit / (base - least) < weight then none
      else readNumber? bias (place + 1) (weight * (base - least)) (sum + digit * weight) rest

theorem length_readNumber? {bias place weight sum value : Nat} {digits rest : List Char}
    (h : readNumber? bias place weight sum digits = some (value, rest)) :
    rest.length < digits.length := by
  fun_induction readNumber? bias place weight sum digits with
  | case1 => simp at h
  | case2 => simp at h
  | case3 => simp at h
  | case4 place weight sum c tail =>
    obtain ⟨_, rfl⟩ := Prod.mk.inj (Option.some.inj h)
    simp
  | case5 => simp at h
  | case6 place weight sum c tail _ _ _ _ _ _ ih =>
    have := ih h
    simp only [List.length_cons]
    omega

def settle (delta steps : Nat) : Nat :=
  if 455 < delta then settle (delta / 35) (steps + base)
  else steps + base * delta / (delta + 38)
termination_by delta
decreasing_by exact Nat.div_lt_self (by omega) (by omega)

/-- The bias after a number, with which the text has `length` characters. The first
number of a text counts less. -/
def adapt (delta length : Nat) (isFirst : Bool) : Nat :=
  let delta := if isFirst then delta / 700 else delta / 2
  settle (delta + delta / length) 0

/-- Puts in the characters that the digits stand for. The numbers count places from
the front, `place` is where the last one ended, and once around the text comes the
next character `code`. -/
def insertAll? (bias code place : Nat) (text digits : List Char) : Option (List Char) :=
  if digits = [] then some text
  else
    match h : readNumber? bias 1 1 place digits with
    | none => none
    | some (sum, rest) =>
      let length := text.length + 1
      let bias := adapt (sum - place) length (place = 0)
      let code := code + sum / length
      let place := sum % length
      if code.isValidChar then
        insertAll? bias code (place + 1) (text.insertIdx place (Char.ofNat code)) rest
      else none
termination_by digits.length
decreasing_by exact length_readNumber? h

def decode? (text : List Char) : Option (List Char) :=
  let reversed := text.reverse
  let digits := (reversed.takeWhile (· ≠ '-')).reverse
  match reversed.dropWhile (· ≠ '-') with
  | [] => insertAll? firstBias firstCode 0 [] digits
  | [_] => none
  | _ :: letters => insertAll? firstBias firstCode 0 letters.reverse digits

end SlotWallet.DomainName.Punycode
