import SlotWallet.Decimal.Reading
import SlotWallet.Error
import SlotWallet.Text.Ascii
import SlotWallet.Text.Blank
import SlotWallet.Text.Utf8

/-!
# Amounts

Amounts are lamports, a billion to the SOL. A text with the unit `sol`, a point
or an exponent is read as SOL in double precision and rounded to the nearest
lamport; a bare whole number is lamports.
-/

namespace SlotWallet.Amount

open Decimal

def lamportsPerSol : Nat := 1000000000

def maxLamports : Nat := UInt64.size - 1

def format (lamports : UInt64) : String :=
  let n := lamports.toNat
  String.ofList (Decimal.ofNat (n / lamportsPerSol) ++ ['.'] ++
    padded 9 (n % lamportsPerSol) ++ [' ', 'S', 'O', 'L'])

/-- Takes off the unit, in any case, and the blanks before it. The unit is looked for in the last
three bytes. -/
def stripUnit (text : List Char) : Option (List Char) :=
  match Text.splitAtByte? (Text.utf8Length text - 3) text with
  | none => none
  | some (number, unit) =>
    if Text.sameLetters unit ['s', 'o', 'l'] then some (Text.trimEnd number) else none

def looksFractional (text : List Char) : Bool :=
  text.any fun c => c = '.' || c = 'e' || c = 'E'

/-- A number of SOL. The words for infinity and for no number are numbers too,
and so are those beyond every double, but none of them is finite. -/
def readSol? (text : List Char) : Option (Option Binary64) :=
  let word := (readSign text).2
  if ["inf", "infinity", "nan"].any (fun w => Text.sameLetters word w.toList) then some none
  else (denoted? text).map Denoted.toBinary64

def sol (significand shift : Nat) : Binary64 := ⟨false, significand, shift⟩

def billion : Binary64 := sol 8388608000000000 1051

def half : Binary64 := sol Binary64.leastNormal 1021

def maxSol : Binary64 := sol 4835703278458517 1056

theorem billion_eq : Binary64.ofNat lamportsPerSol = some billion := by decide +kernel

theorem half_eq : Binary64.ofRatio false 1 2 = some half := by decide +kernel

theorem maxSol_eq : ((Binary64.ofNat maxLamports).bind (·.div billion)) = some maxSol := by
  decide +kernel

/-- The whole part of `sol × 10 ^ 9 + 1 / 2`, both steps rounded to doubles; at
most what fits. -/
def toLamports (sol : Binary64) : Nat :=
  match (sol.mul billion).bind (·.addSameSign half) with
  | some x => min x.floorMagnitude maxLamports
  | none => maxLamports

def readAsSol (text : List Char) : Except InputFault UInt64 :=
  match readSol? text with
  | none => throw (.solAmount text)
  | some none => throw .zeroAmount
  | some (some sol) =>
    if sol.negative || sol.isZero then throw .zeroAmount
    else if maxSol.magnitudeLt sol then throw .hugeAmount
    else
      let lamports := toLamports sol
      if lamports = 0 then throw .dustAmount else pure (UInt64.ofNat lamports)

def readLamports? (text : List Char) : Option Nat := readUnsigned? maxLamports text

def readAsLamports (text : List Char) : Except InputFault UInt64 :=
  match readLamports? text with
  | none => throw (.lamportAmount text)
  | some n => if n = 0 then throw .zeroAmount else pure (UInt64.ofNat n)

def parseChars (text : List Char) : Except InputFault UInt64 :=
  let text := Text.trim text
  if text = [] then throw .emptyAmount
  else
    match stripUnit text with
    | some number => readAsSol number
    | none => if looksFractional text then readAsSol text else readAsLamports text

def parse (text : String) : Except InputFault UInt64 := parseChars text.toList

end SlotWallet.Amount
