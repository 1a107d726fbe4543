import SlotWallet.Decimal.Digits
import SlotWallet.Error
import SlotWallet.Text.Ascii
import SlotWallet.Text.Blank
import SlotWallet.Text.Utf8

/-!
# Slots

The device has ten slots, `Str0` to `Str9`. A slot is named by its digit, alone
or behind `Str` in any case.
-/

namespace SlotWallet

structure Slot where
  index : Fin 10
deriving DecidableEq

namespace Slot

def count : Nat := 10

def ofIndex (index : Nat) : Except InputFault Slot :=
  if h : index < 10 then pure ⟨index, h⟩ else throw (.slotIndex index count)

def all : List Slot := (List.finRange 10).map Slot.mk

def nameChars (slot : Slot) : List Char :=
  ['S', 't', 'r', Char.ofNat (48 + slot.index)]

def name (slot : Slot) : String := String.ofList slot.nameChars

/-- What is behind the letters `Str`, in any case. They are looked for in the first three
bytes. -/
def behindLetters? (text : List Char) : Option (List Char) :=
  match Text.splitAtByte? 3 text with
  | none => none
  | some (letters, rest) =>
    if Text.sameLetters letters ['s', 't', 'r'] then some rest else none

def ofChars (text : List Char) : Except InputFault Slot :=
  let text := Text.trim text
  let digits := (behindLetters? text).getD text
  if Text.utf8Length digits = 1 then
    match Decimal.readUnsigned? (UInt8.size - 1) digits with
    | some index => ofIndex index
    | none => throw (.slotName text)
  else throw (.slotName text)

def ofName (text : String) : Except InputFault Slot := ofChars text.toList

theorem ofChars_nameChars (slot : Slot) : ofChars slot.nameChars = .ok slot := by
  obtain ⟨index⟩ := slot
  match index with
  | 0 | 1 | 2 | 3 | 4 | 5 | 6 | 7 | 8 | 9 => rfl

end Slot

end SlotWallet
