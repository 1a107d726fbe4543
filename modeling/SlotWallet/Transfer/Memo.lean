import SlotWallet.Bytes
import SlotWallet.Error
import SlotWallet.Text.Utf8

/-!
# Memos

A memo is 1 to 120 printable ASCII characters, so it has one byte a character.
-/

namespace SlotWallet

def isPrintableAscii (c : Char) : Bool := 0x20 ≤ c.toNat && c.toNat ≤ 0x7e

structure Memo where
  chars : List Char
  ne_nil : chars ≠ []
  length_le : chars.length ≤ 120
  printable : chars.all isPrintableAscii = true

namespace Memo

def maxLength : Nat := 120

theorem length_le_utf8Length (text : List Char) : text.length ≤ Text.utf8Length text := by
  induction text with
  | nil => simp
  | cons c rest ih =>
    have := Char.utf8Size_pos c
    simp only [List.length_cons, Text.utf8Length_cons]
    omega

/-- The length limit counts bytes and is looked at before the characters. -/
def ofChars (text : List Char) : Except InputFault Memo :=
  if h1 : text = [] then throw .emptyMemo
  else if h2 : Text.utf8Length text ≤ maxLength then
    if h3 : text.all isPrintableAscii = true then
      pure ⟨text, h1, Nat.le_trans (length_le_utf8Length text) h2, h3⟩
    else throw .unprintableMemo
  else throw (.longMemo (Text.utf8Length text) maxLength)

def ofText (text : String) : Except InputFault Memo := ofChars text.toList

def text (memo : Memo) : String := String.ofList memo.chars

def bytes (memo : Memo) : Bytes := memo.chars.map fun c => UInt8.ofNat c.toNat

@[simp] theorem length_bytes (memo : Memo) : memo.bytes.length = memo.chars.length := by
  simp [bytes]

end Memo

def defaultMemo : String := "sent from my ti83+"

end SlotWallet
