import SlotWallet.DomainName.Mapping
import SlotWallet.DomainName.Punycode
import SlotWallet.Text.Composition
import SlotWallet.Text.Direction
import SlotWallet.Text.Joining
import SlotWallet.Text.Mark

/-!
# Labels

The parts of a domain name between its dots. A label that starts with `xn--` is
read as the text that it encodes. A label beyond ASCII starts with no mark, and a
joiner in it stands where it makes a difference. In a name with letters that go
from right to left, each label goes in one direction and shows where it ends.
-/

namespace SlotWallet.DomainName

open Text (Direction direction)

namespace Label

def encodedStart : List Char := "xn--".toList

def maxEncoded : Nat := 2000

def maxLength : Nat := 1000

/-- The text that a label encodes, which is in the form that it would be mapped to
and not plain ASCII. -/
def decode? (encoded : List Char) : Option (List Char) := do
  guard (encoded.all Text.isAscii && encoded.getLast? ≠ some '-' && encoded.length ≤ maxEncoded)
  let text ← Punycode.decode? encoded
  guard (text ≠ [] && text.all isKept && Text.composedForm text = text)
  pure text

def read? (label : List Char) : Option (List Char) :=
  if encodedStart.isPrefixOf label then decode? (label.drop encodedStart.length) else some label

def nonJoiner : Char := Char.ofNat 0x200C

def joiner : Char := Char.ofNat 0x200D

def endsInVirama (before : List Char) : Bool :=
  before.head?.any fun c => Text.combiningClass c = Text.viramaClass

/-- The letters around a place would be joined there; `before` is given from its
end. -/
def wouldJoin (before after : List Char) : Bool :=
  let next (text : List Char) : Option Text.Joining :=
    (text.dropWhile fun c => Text.joining? c = some .transparent).head?.bind Text.joining?
  (next before = some .after || next before = some .both) &&
    (next after = some .before || next after = some .both)

def joinersOk (before : List Char) : List Char → Bool
  | [] => true
  | c :: rest =>
    (if c = nonJoiner then endsInVirama before || wouldJoin before rest
      else c != joiner || endsInVirama before) && joinersOk (c :: before) rest

def isWellFormed (label : List Char) : Bool :=
  label.all Text.isAscii ||
    (!label.head?.any Text.isMark && joinersOk [] label && label.length ≤ maxLength)

def goesLeft : Direction → Bool
  | .rightToLeft | .arabicLetter | .arabicNumber => true
  | _ => false

def firstRightToLeft : Nat := 0x590

def hasRightToLeft (label : List Char) : Bool :=
  label.any fun c => firstRightToLeft ≤ c.toNat && goesLeft (direction c)

def isShared : Direction → Bool
  | .europeanNumber | .europeanSeparator | .europeanTerminator | .commonSeparator | .nonspacing
  | .boundary | .neutral => true
  | _ => false

/-- A label starts with a letter and has no letters of the other direction; marks
apart, it ends with a letter or a number, and its numbers are of one kind. -/
def hasOneDirection (label : List Char) : Bool :=
  let classes := label.map direction
  let last := (classes.reverse.dropWhile (· = .nonspacing)).head?
  match classes with
  | [] => true
  | .leftToRight :: _ =>
    classes.all (fun d => d = .leftToRight || isShared d) &&
      (last = some .leftToRight || last = some .europeanNumber)
  | .rightToLeft :: _ | .arabicLetter :: _ =>
    classes.all (fun d => goesLeft d || isShared d) &&
      last.any (fun d => goesLeft d || d = .europeanNumber) &&
      !(classes.contains .europeanNumber && classes.contains .arabicNumber)
  | _ => false

end Label

end SlotWallet.DomainName
