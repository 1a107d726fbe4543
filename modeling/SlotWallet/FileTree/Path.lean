import SlotWallet.Error
import SlotWallet.FileTree.Basic

/-!
# Paths

A path text is followed name by name: from the root if it starts with a slash,
else from where the tree starts. Each name must be there, and what is followed
further must be a directory, also where only a slash or a `.` comes behind it. A
file that is created gets a mode; one that is written again keeps the mode it
has.
-/

namespace SlotWallet.FileTree

def maxNameLength : Nat := 255

def maxPathLength : Nat := 4095

def privateMode : Nat := 0o600

def sharedMode : Nat := 0o644

def tooLong (name : String) : Bool := maxNameLength < name.utf8ByteSize

def namesOf (path : String) : List String :=
  (path.toList.splitOn '/').map String.ofList

def isIdle (name : String) : Bool := name = "" || name = "."

def significantNames (path : String) : List String :=
  (namesOf path).filter (fun name => !isIdle name)

def isAbsolute (path : String) : Bool := path.toList.head? = some '/'

def join (directory name : String) : String :=
  if directory = "" then name
  else if directory.toList.getLast? = some '/' then directory ++ name
  else directory ++ "/" ++ name

def above (path : String) : String :=
  let trimmed := (namesOf path).reverse.dropWhile isIdle
  String.intercalate "/" ((trimmed.drop 1).dropWhile isIdle).reverse

def origin (tree : FileTree) (path : String) : Place :=
  if isAbsolute path then [] else tree.start

def checkPath (path : String) : Except OsError Unit :=
  if path.toList.any (fun c => c.toNat = 0) then .error .invalidName
  else if path = "" then .error .notFound
  else if maxPathLength < path.utf8ByteSize then .error .nameTooLong
  else .ok ()

def step (tree : FileTree) (place : Place) (name : String) : Except OsError Place :=
  match tree.lookup? place with
  | none => .error .notFound
  | some (.file ..) => .error .notDirectory
  | some (.directory _) =>
    if isIdle name then .ok place
    else if name = ".." then .ok place.dropLast
    else if tooLong name then .error .nameTooLong
    else if (tree.lookup? (place ++ [name])).isNone then .error .notFound
    else .ok (place ++ [name])

def follow (tree : FileTree) (place : Place) (names : List String) : Except OsError Place :=
  names.foldlM tree.step place

def placeOf (tree : FileTree) (path : String) : Except OsError Place := do
  checkPath path
  tree.follow (tree.origin path) (namesOf path)

def lookup (tree : FileTree) (path : String) : Except OsError FileEntry := do
  match tree.lookup? (← tree.placeOf path) with
  | some entry => pure entry
  | none => throw .notFound

def exists? (tree : FileTree) (path : String) : Bool :=
  match tree.lookup path with
  | .ok _ => true
  | .error _ => false

def read (tree : FileTree) (path : String) : Except OsError Bytes := do
  match ← tree.lookup path with
  | .file _ contents => pure contents
  | .directory _ => throw .isDirectory

/-- The last name of a path text and the names in front of it; slashes behind it do
not count. -/
def splitLast (path : String) : List String × String :=
  match (namesOf path).reverse.dropWhile (· = "") with
  | [] => ([], "")
  | name :: reversed => (reversed.reverse, name)

/-- Where a path text has a file: a directory that is there, and a name. A slash
behind the name asks for a directory. -/
def target (tree : FileTree) (path : String) : Except OsError (Place × String) := do
  checkPath path
  let (names, name) := splitLast path
  let directory ← tree.follow (tree.origin path) names
  if !tree.isDirectoryAt directory then throw .notDirectory
  else if (namesOf path).getLast? = some "" ∨ isIdle name ∨ name = ".." then throw .isDirectory
  else if tooLong name then throw .nameTooLong
  else pure (directory, name)

/-- Replaces the contents of a file, which is created with `mode` if it is not
there. -/
def write (tree : FileTree) (path : String) (mode : Nat) (contents : Bytes) :
    Except OsError FileTree := do
  let (directory, name) ← tree.target path
  let place := directory ++ [name]
  match tree.lookup? place with
  | some (.directory _) => throw .isDirectory
  | some (.file kept _) => pure (tree.put place (.file kept contents))
  | none => pure (tree.put place (.file mode contents))

def removeFile (tree : FileTree) (path : String) : Except OsError FileTree := do
  let place ← tree.placeOf path
  if tree.isDirectoryAt place then throw .isDirectory
  pure (tree.remove place)

end SlotWallet.FileTree
