import SlotWallet.Bytes
import SlotWallet.DomainName.Basic
import SlotWallet.Text.Utf8

/-!
# Web addresses

Which texts can be posted to: a scheme that is `http` or `https`, a host, and
behind a colon a socket number that fits 16 bits. Blanks around the text and tabs
and line ends inside do not count, and a backslash is as good as a slash. A host
may be escaped; it is judged by the name that it is a way to write.
-/

namespace SlotWallet.Url

def clean (text : List Char) : List Char :=
  let edge (c : Char) : Bool := c.toNat ≤ 32
  let text := ((text.dropWhile edge).reverse.dropWhile edge).reverse
  text.filter fun c => !(c = '\t' || c = '\n' || c = '\r')

def isSlash (c : Char) : Bool := c = '/' || c = '\\'

def afterScheme? (text : List Char) : Option (List Char) :=
  let scheme := text.takeWhile (· ≠ ':')
  let rest := text.dropWhile (· ≠ ':')
  if rest = [] then none
  else if Text.sameLetters scheme "http".toList || Text.sameLetters scheme "https".toList then
    some ((rest.drop 1).dropWhile isSlash)
  else none

def authority (text : List Char) : List Char :=
  let part := text.takeWhile fun c => !(isSlash c || c = '?' || c = '#')
  match part.reverse.span (· ≠ '@') with
  | (host, _ :: _) => host.reverse
  | (_, []) => part

def splitSocket (text : List Char) : List Char × List Char :=
  match text with
  | '[' :: _ =>
    let inside := text.takeWhile (· ≠ ']')
    let rest := text.dropWhile (· ≠ ']')
    (inside ++ rest.take 1, rest.drop 1)
  | _ => (text.takeWhile (· ≠ ':'), text.dropWhile (· ≠ ':'))

def socketOk : List Char → Bool
  | [] => true
  | ':' :: digits =>
    digits.all Char.isDigit && digits.foldl (fun n c => 10 * n + (c.toNat - 48)) 0 < 65536
  | _ => false

def unescape : List Char → Bytes
  | [] => []
  | '%' :: a :: b :: rest =>
    match Text.hexValue? a, Text.hexValue? b with
    | some high, some low => UInt8.ofNat (16 * high + low) :: unescape rest
    | _, _ => 37 :: unescape (a :: b :: rest)
  | c :: rest => Text.toBytes [c] ++ unescape rest

/-- One part of a numeric host: decimal, octal behind `0` or hexadecimal behind
`0x`. -/
def numberPart? (part : List Char) : Option Nat :=
  let read (base : Nat) (digits : List Char) : Option Nat :=
    digits.foldlM (fun n c =>
      let c := Text.asciiLower c
      let d := if c.isDigit then c.toNat - 48 else if c.toNat < 97 then 99 else c.toNat - 87
      if d < base then some (base * n + d) else none) 0
  match part with
  | [] => none
  | '0' :: c :: rest => if c = 'x' || c = 'X' then read 16 rest else read 8 (c :: rest)
  | _ => read 10 part

/-- A host whose last part is a number must be an address of four bytes. -/
def numericOk (host : List Char) : Bool :=
  let parts := host.splitOn '.'
  let parts := if parts.length > 1 && parts.getLast? = some [] then parts.dropLast else parts
  match parts.getLast? with
  | none => true
  | some last =>
    if last ≠ [] && (last.all Char.isDigit || (numberPart? last).isSome) then
      match parts.mapM numberPart? with
      | none => false
      | some numbers =>
        numbers.length ≤ 4 && numbers.dropLast.all (· ≤ 255) &&
          (numbers.getLast?.getD 0) < 1 <<< (8 * (5 - numbers.length))
    else true

def isQuad (text : List Char) : Bool :=
  let parts := text.splitOn '.'
  parts.length = 4 && parts.all fun part =>
    part ≠ [] && part.all Char.isDigit && part.length ≤ 3 &&
      (part.head? ≠ some '0' || part.length = 1) && (numberPart? part).any (· ≤ 255)

/-- Eight groups of hexadecimal digits between colons. One run of groups may be
left out, and the last two may be given as four bytes. -/
def bracketedOk (inside : List Char) : Bool :=
  let groups := inside.splitOn ':'
  let groups :=
    if isQuad (groups.getLast?.getD []) then groups.dropLast ++ [['0'], ['0']] else groups
  let given := (groups.filter (· ≠ [])).length
  let missing := groups.length - given
  let first := groups.head? = some []
  let last := groups.getLast? = some []
  groups.all (fun g => g.length ≤ 4 && g.all Text.isHexDigit) &&
    ((missing = 0 && given = 8) || (given ≤ 7 &&
      ((missing = 1 && !first && !last) ||
        (missing = 2 && first && groups[1]? = some [] && !last) ||
        (missing = 2 && last && groups.reverse[1]? = some [] && !first) ||
        (missing = 3 && given = 0))))

def isUnsendable (c : Char) : Bool := c = '"' || c.toNat = 96 || c.toNat = 123 || c.toNat = 125

def hostOk (host : List Char) : Bool :=
  match host with
  | '[' :: inside => inside.getLast? = some ']' && bracketedOk inside.dropLast
  | _ =>
    match (Text.ofBytes? (unescape host)).bind fun text => DomainName.read? text.toList with
    | some name => numericOk name && !name.any isUnsendable
    | none => false

def isUsable (url : String) : Bool :=
  match afterScheme? (clean url.toList) with
  | none => false
  | some rest =>
    let (host, socket) := splitSocket (authority rest)
    hostOk host && socketOk socket

end SlotWallet.Url
