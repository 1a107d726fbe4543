import SlotWallet.Text.Unprintable

/-!
# Quoted text

Messages show what they were given between quotes. A quote of the same kind and
a backslash take a backslash; a character without a printed form is shown by
name or by number.
-/

namespace SlotWallet.Text

def hexDigits (n : Nat) : List Char :=
  Nat.toDigits 16 n

def escape (quote c : Char) : List Char :=
  if c = quote then ['\\', c]
  else if c = '\\' then ['\\', '\\']
  else if c = '\n' then ['\\', 'n']
  else if c = '\r' then ['\\', 'r']
  else if c = '\t' then ['\\', 't']
  else if c.toNat = 0 then ['\\', '0']
  else if isUnprintable c then ['\\', 'u', '\x7b'] ++ hexDigits c.toNat ++ ['\x7d']
  else [c]

def quotedChars (text : List Char) : List Char :=
  ['"'] ++ text.flatMap (escape '"') ++ ['"']

def quoted (text : List Char) : String :=
  String.ofList (quotedChars text)

def quotedChar (c : Char) : String :=
  String.ofList (['\''] ++ escape '\'' c ++ ['\''])

end SlotWallet.Text
