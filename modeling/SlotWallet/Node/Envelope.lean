import SlotWallet.Error
import SlotWallet.Json.Reader

/-!
# The body of an answer

A body is an object with a `result`, an `error` of a code and a message, or both;
then the error counts. A member that is null is as good as absent, unknown members
only have to be written properly, and one that is known must not come twice. An
array with exactly the members in this order is read as well.
-/

namespace SlotWallet.Envelope

open Json

structure Fault where
  code : Int
  message : String

structure Body where
  result : Option Json
  error : Option Fault

def valuesOf (key : String) (members : List (Option String × Written)) : List Written :=
  (members.filter fun m => m.1 = some key).map (·.2)

def keysReadable (members : List (Option String × Written)) : Bool :=
  members.all fun m => m.1.isSome

def isNull : Written → Bool
  | .null => true
  | _ => false

def readCode? (w : Written) : Option Int :=
  match w.toJson? 0 with
  | some (.int n) => if n ≤ Json.maxSigned then some n else none
  | _ => none

def readText? : Written → Option String
  | .string text => text
  | _ => none

def readFault? : Written → Option Fault
  | .object members =>
    if keysReadable members then
      match valuesOf "code" members, valuesOf "message" members with
      | [code], [message] => do pure ⟨← readCode? code, ← readText? message⟩
      | _, _ => none
    else none
  | .array [code, message] => do pure ⟨← readCode? code, ← readText? message⟩
  | _ => none

def readResult? (w : Written) : Option (Option Json) :=
  if isNull w then some none else (w.toJson? (maxDepth - 1)).map some

def readError? (w : Written) : Option (Option Fault) :=
  if isNull w then some none else (readFault? w).map some

/-- A member that may be left out but not given twice. -/
def readMember? {α : Type} (read : Written → Option (Option α)) : List Written → Option (Option α)
  | [] => some none
  | [w] => read w
  | _ => none

def ofWritten? : Written → Option Body
  | .object members =>
    if keysReadable members then do
      pure ⟨← readMember? readResult? (valuesOf "result" members),
        ← readMember? readError? (valuesOf "error" members)⟩
    else none
  | .array [result, error] => do pure ⟨← readResult? result, ← readError? error⟩
  | _ => none

def read? (body : String) : Option Body := do
  ofWritten? (← Written.read? body.toList)

def outcome (body : String) : Except WalletError Json :=
  match read? body with
  | none => throw (.protocol .unparseable)
  | some { error := some fault, .. } => throw (.rpc fault.code fault.message)
  | some { result := some value, .. } => pure value
  | some _ => throw (.protocol .missingResult)

end SlotWallet.Envelope
