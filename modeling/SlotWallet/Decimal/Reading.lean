import SlotWallet.Decimal.Binary64
import SlotWallet.Decimal.Digits

/-!
# Decimal text as a double

A decimal text is an optional sign, digits with an optional point among or
around them, and an optional exponent. It is read as the double nearest to what
it denotes; a text beyond every double, and the words for infinity and for no
number, are read as numbers that are not finite.
-/

namespace SlotWallet.Decimal

/-- The exact number `± digits × 10 ^ exponent` that a decimal text denotes. -/
structure Denoted where
  negative : Bool
  digits : Nat
  exponent : Int
deriving DecidableEq

/-- The nearest double. Exponents far outside the range of doubles are settled
without raising ten to them. -/
def Denoted.toBinary64 (x : Denoted) : Option Binary64 :=
  if x.digits = 0 then some (.zero x.negative)
  else
    match x.exponent with
    | .ofNat e => if 400 < e then none else Binary64.ofRatio x.negative (x.digits * powerOfTen e) 1
    | .negSucc e =>
      if x.digits.log2 + 400 < e + 1 then some (.zero x.negative)
      else Binary64.ofRatio x.negative x.digits (powerOfTen (e + 1))

def readSign : List Char → Bool × List Char
  | '-' :: rest => (true, rest)
  | '+' :: rest => (false, rest)
  | text => (false, text)

def readExponent? : List Char → Option Int
  | [] => some 0
  | c :: rest =>
    if c = 'e' ∨ c = 'E' then
      let (negative, digits) := readSign rest
      (value? digits).map fun n => if negative then -(n : Int) else n
    else none

def denoted? (text : List Char) : Option Denoted :=
  let (negative, body) := readSign text
  let whole := body.takeWhile Char.isDigit
  let rest := body.dropWhile Char.isDigit
  let (fraction, tail) :=
    match rest with
    | '.' :: after => (after.takeWhile Char.isDigit, after.dropWhile Char.isDigit)
    | _ => ([], rest)
  if whole = [] ∧ fraction = [] then none
  else
    (readExponent? tail).map fun e =>
      ⟨negative, value (whole ++ fraction), e - fraction.length⟩

end SlotWallet.Decimal
