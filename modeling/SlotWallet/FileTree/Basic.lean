import SlotWallet.Bytes

/-!
# Files and directories

A directory holds its members by name, and a place is the names from the root
down. Entries are looked up, put and removed by their place; a put needs the
directory that is to hold the entry, and it leaves every other place alone.
-/

namespace SlotWallet

abbrev Place := List String

inductive FileEntry where
  | file (mode : Nat) (contents : Bytes)
  | directory (members : List (String × FileEntry))

namespace FileEntry

def setMember (members : List (String × FileEntry)) (name : String) (entry : Option FileEntry) :
    List (String × FileEntry) :=
  let others := members.filter (fun m => m.1 ≠ name)
  match entry with
  | none => others
  | some entry => (name, entry) :: others

theorem lookup_setMember (members : List (String × FileEntry)) (name other : String)
    (entry : Option FileEntry) :
    (setMember members name entry).lookup other =
      if other = name then entry else members.lookup other := by
  have others : (members.filter (fun m => m.1 ≠ name)).lookup other =
      if other = name then none else members.lookup other := by
    induction members with
    | nil => simp
    | cons m rest ih =>
      obtain ⟨n, e⟩ := m
      rw [List.filter_cons]
      by_cases hn : n = name
      · subst hn
        by_cases ho : other = n
        · simpa [ho] using ih
        · have hb : (other == n) = false := by simpa using ho
          simpa [ho, hb, List.lookup_cons] using ih
      · by_cases ho : other = n
        · simp [hn, ho]
        · have hb : (other == n) = false := by simpa using ho
          simpa [hn, hb, List.lookup_cons] using ih
  cases entry with
  | none => simpa [setMember] using others
  | some entry =>
    by_cases ho : other = name
    · simp [setMember, ho]
    · have hb : (other == name) = false := by simpa using ho
      simpa [setMember, List.lookup_cons, hb, ho] using others

/-- The entry some names below another one. -/
def find? : Place → Option FileEntry → Option FileEntry
  | [], entry => entry
  | name :: rest, some (.directory members) => find? rest (members.lookup name)
  | _ :: _, _ => none

/-- Changes what is some names below an entry, where the way there exists. -/
def alter (change : Option FileEntry → Option FileEntry) :
    Place → Option FileEntry → Option FileEntry
  | [], entry => change entry
  | name :: rest, some (.directory members) =>
    some (.directory (setMember members name (alter change rest (members.lookup name))))
  | _ :: _, entry => entry

def isDirectory : Option FileEntry → Bool
  | some (.directory _) => true
  | _ => false

@[simp] theorem find?_none (place : Place) : find? place none = none := by
  cases place <;> rfl

theorem find?_append (place rest : Place) (entry : Option FileEntry) :
    find? (place ++ rest) entry = find? rest (find? place entry) := by
  induction place generalizing entry with
  | nil => rfl
  | cons name below ih =>
    match entry with
    | none => simp
    | some (.file ..) => simp [find?]
    | some (.directory members) => simpa [find?] using ih (members.lookup name)

theorem find?_alter_self (change : Option FileEntry → Option FileEntry) (name : String)
    (above : Place) (entry : Option FileEntry) (h : isDirectory (find? above entry)) :
    find? (above ++ [name]) (alter change (above ++ [name]) entry) =
      change (find? (above ++ [name]) entry) := by
  fun_induction find? above entry with
  | case1 entry =>
    match entry, h with
    | some (.directory members), _ => simp [find?, alter, lookup_setMember]
  | case2 first rest members ih => simpa [find?, alter, lookup_setMember] using ih h
  | case3 => simp [isDirectory] at h

theorem isDirectory_alter (change : Option FileEntry → Option FileEntry) {place other : Place}
    {entry : Option FileEntry} (h : ¬ place <+: other) (hd : isDirectory (find? other entry)) :
    isDirectory (find? other (alter change place entry)) := by
  fun_induction alter change place entry generalizing other with
  | case1 => simp at h
  | case2 name rest members ih =>
    cases other with
    | nil => rfl
    | cons first below =>
      by_cases hf : first = name
      · subst hf
        simpa [find?, lookup_setMember] using ih (by simpa using h) (by simpa [find?] using hd)
      · simpa [find?, lookup_setMember, hf] using hd
  | case3 => exact hd

theorem find?_alter_of_apart (change : Option FileEntry → Option FileEntry) {place other : Place}
    {entry : Option FileEntry} (h : ¬ place <+: other) (h' : ¬ other <+: place) :
    find? other (alter change place entry) = find? other entry := by
  fun_induction alter change place entry generalizing other with
  | case1 => simp at h
  | case2 name rest members ih =>
    cases other with
    | nil => simp at h'
    | cons first below =>
      by_cases hf : first = name
      · subst hf
        simpa [find?, lookup_setMember] using ih (by simpa using h) (by simpa using h')
      · simp [find?, lookup_setMember, hf]
  | case3 => rfl

end FileEntry

/-- The members of the root, and the place from which relative paths start. -/
structure FileTree where
  members : List (String × FileEntry)
  start : Place

namespace FileTree

def lookup? (tree : FileTree) (place : Place) : Option FileEntry :=
  FileEntry.find? place (some (.directory tree.members))

/-- Changes the entry at a place other than the root. -/
def alter (tree : FileTree) (place : Place) (change : Option FileEntry → Option FileEntry) :
    FileTree :=
  match FileEntry.alter change place (some (.directory tree.members)) with
  | some (.directory members) => { tree with members }
  | _ => tree

def put (tree : FileTree) (place : Place) (entry : FileEntry) : FileTree :=
  tree.alter place fun _ => some entry

def remove (tree : FileTree) (place : Place) : FileTree :=
  tree.alter place fun _ => none

def isDirectoryAt (tree : FileTree) (place : Place) : Bool :=
  FileEntry.isDirectory (tree.lookup? place)

@[simp] theorem start_alter (tree : FileTree) (place : Place)
    (change : Option FileEntry → Option FileEntry) :
    (tree.alter place change).start = tree.start := by
  unfold alter
  split <;> rfl

theorem lookup?_alter (tree : FileTree) {place : Place} (other : Place)
    (change : Option FileEntry → Option FileEntry) (h : place ≠ []) :
    (tree.alter place change).lookup? other =
      FileEntry.find? other (FileEntry.alter change place (some (.directory tree.members))) := by
  match place, h with
  | name :: rest, _ => simp [alter, lookup?, FileEntry.alter]

theorem isDirectoryAt_above (tree : FileTree) {place rest : Place} (h : rest ≠ [])
    (hs : (tree.lookup? (place ++ rest)).isSome) : tree.isDirectoryAt place := by
  rw [lookup?, FileEntry.find?_append] at hs
  cases rest with
  | nil => exact absurd rfl h
  | cons name below =>
    unfold isDirectoryAt lookup?
    generalize FileEntry.find? place (some (.directory tree.members)) = entry at hs
    match entry with
    | some (.directory _) => rfl
    | some (.file ..) => simp [FileEntry.find?] at hs
    | none => simp [FileEntry.find?] at hs

end FileTree

end SlotWallet
