/-!
# TOML values

A document is a table. Each table remembers how it came about, since that says
who may add to it: one with a header of its own, one that was only passed on the
way to another header, one made by dotted keys, and one written in place, which
is closed.
-/

namespace SlotWallet

inductive TableOrigin where
  | header
  | implied
  | dotted
  | inline
deriving DecidableEq

inductive Toml where
  | string (text : String)
  | integer (value : Int)
  | boolean (value : Bool)
  | float (literal : List Char)
  | datetime (literal : List Char)
  | array (elements : List Toml)
  | table (origin : TableOrigin) (members : List (String × Toml))
  /-- Tables that share one header; the last one is open. -/
  | tables (elements : List (List (String × Toml)))

namespace Toml

abbrev Members := List (String × Toml)

def replace (key : String) (value : Toml) : Members → Members
  | [] => [(key, value)]
  | (k, v) :: rest => if k = key then (key, value) :: rest else (k, v) :: replace key value rest

def add? (members : Members) (key : String) (value : Toml) : Option Members :=
  if (members.lookup key).isSome then none else some (members ++ [(key, value)])

/-- Adds a value under a dotted key. Tables on the way may be made by dotted keys
or be implied, and the one the value goes into only by dotted keys. -/
def addDotted? (members : Members) : List String → Toml → Option Members
  | [], _ => none
  | [key], value => add? members key value
  | key :: more, value =>
    match members.lookup key with
    | none => (addDotted? [] more value).map fun inner => members ++ [(key, .table .dotted inner)]
    | some (.table .dotted inner) =>
      (addDotted? inner more value).map fun inner => replace key (.table .dotted inner) members
    | some (.table .implied inner) =>
      if more.length = 1 then none
      else
        (addDotted? inner more value).map fun inner => replace key (.table .implied inner) members
    | some (.tables elements) =>
      if more.length = 1 then none
      else (addDotted? (elements.getLast?.getD []) more value).map fun inner =>
        replace key (.tables (elements.dropLast ++ [inner])) members
    | some _ => none

def changeAt? (members : Members) (path : List String) (change : Members → Option Members) :
    Option Members :=
  match path with
  | [] => change members
  | key :: more =>
    match members.lookup key with
    | none => (changeAt? [] more change).map fun inner => members ++ [(key, .table .implied inner)]
    | some (.table origin inner) =>
      if origin = .inline then none
      else (changeAt? inner more change).map fun inner => replace key (.table origin inner) members
    | some (.tables elements) =>
      (changeAt? (elements.getLast?.getD []) more change).map fun inner =>
        replace key (.tables (elements.dropLast ++ [inner])) members
    | some _ => none

def open? (root : Members) (path : List String) : Option Members :=
  changeAt? root path.dropLast fun members =>
    let key := path.getLast?.getD ""
    match members.lookup key with
    | none => some (members ++ [(key, .table .header [])])
    | some (.table .implied inner) => some (replace key (.table .header inner) members)
    | some _ => none

def openNext? (root : Members) (path : List String) : Option Members :=
  changeAt? root path.dropLast fun members =>
    let key := path.getLast?.getD ""
    match members.lookup key with
    | none => some (members ++ [(key, .tables [[]])])
    | some (.tables elements) => some (replace key (.tables (elements ++ [[]])) members)
    | some _ => none

end Toml

end SlotWallet
