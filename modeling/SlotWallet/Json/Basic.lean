import SlotWallet.Decimal.Binary64

/-!
# JSON values

Objects keep their members in the order of their keys, and a key that is given
twice keeps its last value. A number is either a whole number or a double.
-/

namespace SlotWallet

inductive Json where
  | null
  | bool (value : Bool)
  | int (value : Int)
  | double (value : Decimal.Binary64)
  | string (text : String)
  | array (elements : List Json)
  | object (members : List (String × Json))

namespace Json

/-- Puts a member at its place in the order of keys, over one of the same key. -/
def insertMember (key : String) (value : Json) : List (String × Json) → List (String × Json)
  | [] => [(key, value)]
  | (k, v) :: rest =>
    if key < k then (key, value) :: (k, v) :: rest
    else if key = k then (key, value) :: rest
    else (k, v) :: insertMember key value rest

def ofMembers (members : List (String × Json)) : Json :=
  .object (members.foldl (fun acc (key, value) => insertMember key value acc) [])

def get? : Json → String → Option Json
  | .object members, key => members.lookup key
  | _, _ => none

def at? : Json → Nat → Option Json
  | .array elements, i => elements[i]?
  | _, _ => none

def path? (value : Json) (path : List String) : Option Json :=
  path.foldl (fun current key => current.bind (·.get? key)) (some value)

def isNull : Json → Bool
  | .null => true
  | _ => false

end Json

end SlotWallet
