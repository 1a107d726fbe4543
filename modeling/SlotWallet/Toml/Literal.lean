import SlotWallet.Decimal.Reading
import SlotWallet.Text.Ascii
import SlotWallet.Toml.Basic

/-!
# Unquoted values of TOML

Booleans, numbers, dates and times are runs of letters, digits and signs. A whole
number has to fit 64 bits with its sign, a fraction must not be beyond every
double, and a date must be in the calendar.
-/

namespace SlotWallet.Toml

open Decimal

def isLiteralChar (c : Char) : Bool :=
  c.isAlphanum || c = '_' || c = '+' || c = '-' || c = '.' || c = ':'

def isGrouped (digit : Char → Bool) : List Char → Bool
  | [] => false
  | [c] => digit c
  | c :: '_' :: rest => digit c && isGrouped digit rest
  | c :: rest => digit c && isGrouped digit rest

def ungroup (text : List Char) : List Char := text.filter (· ≠ '_')

def isPlainWhole (text : List Char) : Bool :=
  isGrouped Char.isDigit text && (text.head? ≠ some '0' || text.length = 1)

def fitsSigned (n : Int) : Bool := -0x8000000000000000 ≤ n && n < 0x8000000000000000

def integerOf? (n : Int) : Option Toml :=
  if fitsSigned n then some (.integer n) else none

def isOctalDigit (c : Char) : Bool := 48 ≤ c.toNat && c.toNat ≤ 55

def isBinaryDigit (c : Char) : Bool := c = '0' || c = '1'

def digitOf (c : Char) : Nat :=
  if c.toNat < 58 then c.toNat - 48 else if c.toNat < 71 then c.toNat - 55 else c.toNat - 87

def radix? (base : Nat) (digit : Char → Bool) (text : List Char) : Option Toml :=
  if isGrouped digit text then
    integerOf? ((ungroup text).foldl (fun n c => base * n + digitOf c) 0 : Nat)
  else none

def readInteger? (text : List Char) : Option Toml :=
  match text with
  | '0' :: 'x' :: rest => radix? 16 Text.isHexDigit rest
  | '0' :: 'o' :: rest => radix? 8 isOctalDigit rest
  | '0' :: 'b' :: rest => radix? 2 isBinaryDigit rest
  | _ =>
    let (negative, digits) := readSign text
    if isPlainWhole digits then
      let n := value (ungroup digits)
      integerOf? (if negative then -(n : Int) else n)
    else none

def isExponent (text : List Char) : Bool :=
  isGrouped Char.isDigit (readSign text).2

def isFraction (text : List Char) : Bool :=
  let isE (c : Char) : Bool := c = 'e' || c = 'E'
  isGrouped Char.isDigit (text.takeWhile (fun c => !isE c)) &&
    (match text.dropWhile (fun c => !isE c) with
    | [] => true
    | _ :: exponent => isExponent exponent)

def isFloat (text : List Char) : Bool :=
  let body := (readSign text).2
  let stop (c : Char) : Bool := c = '.' || c = 'e' || c = 'E'
  let whole := body.takeWhile (fun c => !stop c)
  isPlainWhole whole &&
    (match body.dropWhile (fun c => !stop c) with
    | [] => false
    | '.' :: rest => isFraction rest
    | _ :: rest => isExponent rest)

def readFloat? (text : List Char) : Option Toml :=
  let word := (readSign text).2
  if word = "inf".toList ∨ word = "nan".toList then some (.float text)
  else if isFloat text then
    (denoted? (ungroup text)).bind fun d =>
      if d.toBinary64.isNone ∧ d.negative = false then none else some (.float text)
  else none

def twoDigits? : List Char → Option (Nat × List Char)
  | a :: b :: rest => if a.isDigit && b.isDigit then some (value [a, b], rest) else none
  | _ => none

def isLeapYear (year : Nat) : Bool :=
  year % 4 = 0 && (year % 100 ≠ 0 || year % 400 = 0)

def daysIn (year month : Nat) : Nat :=
  if month = 2 then (if isLeapYear year then 29 else 28)
  else if month = 4 ∨ month = 6 ∨ month = 9 ∨ month = 11 then 30 else 31

def date? : List Char → Option (List Char)
  | a :: b :: c :: d :: '-' :: rest => do
    if !([a, b, c, d].all Char.isDigit) then none
    let (month, rest) ← twoDigits? rest
    match rest with
    | '-' :: rest => do
      let (day, rest) ← twoDigits? rest
      if 1 ≤ month ∧ month ≤ 12 ∧ 1 ≤ day ∧ day ≤ daysIn (value [a, b, c, d]) month then
        some rest
      else none
    | _ => none
  | _ => none

def time? (text : List Char) : Option (List Char) := do
  let (hour, rest) ← twoDigits? text
  match rest with
  | ':' :: rest => do
    let (minute, rest) ← twoDigits? rest
    match rest with
    | ':' :: rest => do
      let (second, rest) ← twoDigits? rest
      if hour ≤ 23 ∧ minute ≤ 59 ∧ second ≤ 60 then
        match rest with
        | '.' :: rest =>
          if rest.takeWhile Char.isDigit = [] then none else some (rest.dropWhile Char.isDigit)
        | _ => some rest
      else none
    | _ => none
  | _ => none

def isOffset : List Char → Bool
  | [] => true
  | ['Z'] => true
  | ['z'] => true
  | sign :: rest =>
    (sign = '+' || sign = '-') &&
      (match twoDigits? rest with
      | some (hour, ':' :: rest) =>
        (match twoDigits? rest with
        | some (minute, []) => hour ≤ 23 && minute ≤ 59
        | _ => false)
      | _ => false)

/-- A date, a time, or both; a time after a date may have an offset. -/
def isDatetime (text : List Char) : Bool :=
  match date? text with
  | some [] => true
  | some (c :: rest) => (c = 'T' || c = 't' || c = ' ') && (time? rest).any isOffset
  | none => time? text = some []

def ofLiteral? (text : List Char) : Option Toml :=
  if text = "true".toList then some (.boolean true)
  else if text = "false".toList then some (.boolean false)
  else if isDatetime text then some (.datetime text)
  else match readInteger? text with
    | some v => some v
    | none => readFloat? text

/-- An unquoted value and the text after it. A date may go on with a time after
one space. -/
def readLiteralValue (text : List Char) : Option (Toml × List Char) :=
  let word := text.takeWhile isLiteralChar
  let rest := text.dropWhile isLiteralChar
  let time := (rest.drop 1).takeWhile isLiteralChar
  if date? word = some [] ∧ rest.head? = some ' ' ∧ time ≠ [] then
    (ofLiteral? (word ++ [' '] ++ time)).map fun v => (v, (rest.drop 1).dropWhile isLiteralChar)
  else (ofLiteral? word).map fun v => (v, rest)

end SlotWallet.Toml
