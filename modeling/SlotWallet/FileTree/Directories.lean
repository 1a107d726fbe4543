import SlotWallet.FileTree.Path

/-!
# Making directories

A directory is made together with those above it that are missing. Where that
fails on the way, the directories made so far stay. A path text that ends in `.`
names what is in front of the dot, which has to be there already.
-/

namespace SlotWallet.FileTree

def makeAlong (tree : FileTree) (place : Place) : List String → Except OsError Unit × FileTree
  | [] => (.ok (), tree)
  | name :: rest =>
    let next := place ++ [name]
    if name = ".." then makeAlong tree place.dropLast rest
    else
      match tree.lookup? next with
      | some (.directory _) => makeAlong tree next rest
      | some (.file ..) => (.error .exists, tree)
      | none =>
        if tooLong name then (.error .nameTooLong, tree)
        else makeAlong (tree.put next (.directory [])) next rest

/-- There is a directory where the path text leads, whatever slashes are behind it. -/
def checkDirectory (tree : FileTree) (path : String) : Except OsError Unit := do
  checkPath path
  let names := ((namesOf path).reverse.dropWhile (· = "")).reverse
  if tree.isDirectoryAt (← tree.follow (tree.origin path) names) then pure ()
  else throw .exists

def missingAlong (path : String) : List String :=
  let names := significantNames path
  if ((namesOf path).reverse.dropWhile (· = "")).head? = some "." then names.dropLast else names

def needsNothing (path : String) : Bool :=
  path = "" || (isAbsolute path && (significantNames path).isEmpty)

def makeDirectories (tree : FileTree) (path : String) : Except OsError Unit × FileTree :=
  if needsNothing path then (.ok (), tree)
  else
    match tree.checkDirectory path with
    | .error .notFound =>
      let (made, tree) := tree.makeAlong (tree.origin path) (missingAlong path)
      (made.bind fun () => tree.checkDirectory path, tree)
    | result => (result, tree)

end SlotWallet.FileTree
