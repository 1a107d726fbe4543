import SlotWallet.Decimal.Shortest
import SlotWallet.Json.Basic

/-!
# JSON text

The compact form, without blanks. Strings escape the quote, the backslash and
the controls below the space; all other characters stand for themselves. A
double always shows that it is one, by a point or an exponent.
-/

namespace SlotWallet.Json

def escapeChar (c : Char) : List Char :=
  if c = '"' then ['\\', '"']
  else if c = '\\' then ['\\', '\\']
  else if c.toNat < 32 then
    if c.toNat = 8 then ['\\', 'b']
    else if c = '\t' then ['\\', 't']
    else if c = '\n' then ['\\', 'n']
    else if c.toNat = 12 then ['\\', 'f']
    else if c = '\r' then ['\\', 'r']
    else ['\\', 'u', '0', '0'] ++ [Nat.digitChar (c.toNat / 16), Nat.digitChar (c.toNat % 16)]
  else [c]

def stringChars (text : String) : List Char :=
  ['"'] ++ text.toList.flatMap escapeChar ++ ['"']

def positional (digits : List Char) (exponent : Int) : List Char :=
  match exponent with
  | .ofNat e => digits ++ List.replicate e '0' ++ ['.', '0']
  | .negSucc e =>
    let places := e + 1
    let whole := digits.length - places
    if 0 < whole then digits.take whole ++ ['.'] ++ digits.drop whole
    else ['0', '.'] ++ List.replicate (places - digits.length) '0' ++ digits

def scientific (digits : List Char) (lead : Int) : List Char :=
  let mantissa :=
    match digits with
    | [] => []
    | [d] => [d]
    | d :: rest => d :: '.' :: rest
  let exponent :=
    if lead < 0 then '-' :: Decimal.ofNat lead.natAbs else '+' :: Decimal.ofNat lead.natAbs
  mantissa ++ ['e'] ++ exponent

/-- Positional when the leading digit stands for `10 ^ -5` up to `10 ^ 15`. -/
def doubleChars (x : Decimal.Binary64) : List Char :=
  let sign := if x.negative then ['-'] else []
  if x.isZero then sign ++ ['0', '.', '0']
  else
    let s := x.shortest
    let digits := Decimal.ofNat s.digits
    let lead := s.exponent + digits.length - 1
    sign ++ (if -5 ≤ lead ∧ lead ≤ 15 then positional digits s.exponent else scientific digits lead)

mutual

def chars : Json → List Char
  | .null => "null".toList
  | .bool true => "true".toList
  | .bool false => "false".toList
  | .int n => Decimal.ofInt n
  | .double x => doubleChars x
  | .string text => stringChars text
  | .array elements => ['['] ++ elementsChars elements ++ [']']
  | .object members => ['\x7b'] ++ membersChars members ++ ['\x7d']

def elementsChars : List Json → List Char
  | [] => []
  | [value] => chars value
  | value :: rest => chars value ++ [','] ++ elementsChars rest

def membersChars : List (String × Json) → List Char
  | [] => []
  | [(key, value)] => stringChars key ++ [':'] ++ chars value
  | (key, value) :: rest => stringChars key ++ [':'] ++ chars value ++ [','] ++ membersChars rest

end

def print (value : Json) : String := String.ofList (chars value)

end SlotWallet.Json
