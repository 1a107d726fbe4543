import SlotWallet.Bytes
import SlotWallet.Error
import SlotWallet.Text.Blank
import SlotWallet.Text.Utf8

/-!
# Base58

Keys, blockhashes and signatures are shown as numbers in base 58 over letters
and digits that are hard to confuse. Each zero byte in front is written as a
`1` in front, so that a text denotes one byte string only.
-/

namespace SlotWallet.Base58

def alphabet : List Char :=
  "123456789ABCDEFGHJKLMNPQRSTUVWXYZabcdefghijkmnopqrstuvwxyz".toList

def digit (n : Nat) : Char := alphabet.getD n '1'

def digitValue? (c : Char) : Option Nat := alphabet.idxOf? c

def ofNat (n : Nat) : List Char :=
  if n = 0 then [] else ofNat (n / 58) ++ [digit (n % 58)]
termination_by n
decreasing_by omega

def bytesOfNat (n : Nat) : Bytes :=
  if n = 0 then [] else bytesOfNat (n / 256) ++ [UInt8.ofNat (n % 256)]
termination_by n
decreasing_by omega

def encodeChars (bytes : Bytes) : List Char :=
  let zeros := bytes.takeWhile (· == 0)
  zeros.map (fun _ => '1') ++ ofNat (Bytes.bigEndian bytes)

def encode (bytes : Bytes) : String := String.ofList (encodeChars bytes)

/-- The digits of a text from its byte `position` on; the first character that
is not a digit is reported with its position. -/
def digits (position : Nat) : List Char → Except InputFault (List Nat)
  | [] => .ok []
  | c :: rest =>
    match digitValue? c with
    | some d => (digits (position + 1) rest).map (d :: ·)
    | none =>
      .error (if c.toNat < 128 then .base58Character c position else .base58NonAscii position)

def valueOf (digits : List Nat) : Nat :=
  digits.foldl (fun n d => 58 * n + d) 0

def decodeChars (text : List Char) : Except InputFault Bytes := do
  let ds ← digits 0 text
  let zeros := ds.takeWhile (· == 0)
  pure (zeros.map (fun _ => 0) ++ bytesOfNat (valueOf ds))

def decode (text : String) : Except InputFault Bytes := decodeChars text.toList

def decodeFixed (n : Nat) (text : String) : Except InputFault (FixedBytes n) := do
  let bytes ← decodeChars (Text.trim text.toList)
  match FixedBytes.ofBytes? bytes with
  | some a => pure a
  | none => throw (.base58Length n bytes.length)

end SlotWallet.Base58
