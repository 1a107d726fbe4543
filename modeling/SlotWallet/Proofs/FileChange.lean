import SlotWallet.Proofs.FileTree

/-!
# Changing one file

A tree that is changed at a place where no directory is, and where none comes to be, has
the same directories as before, and all else in it is where it was (`AgreeBut`). So a path
text has the file that was written there last, and the others keep theirs
(`HoldsAt.write`, `SetsFile.file?_join`).
-/

namespace SlotWallet.FileTree

-- ---------------------------------------------------------------------------
-- Trees that differ at one place
-- ---------------------------------------------------------------------------

/-- The trees differ at most at a place where neither has a directory. -/
structure AgreeBut (place : Place) (tree other : FileTree) : Prop where
  start_eq : other.start = tree.start
  isDirectoryAt_eq : ∀ p, other.isDirectoryAt p = tree.isDirectoryAt p
  notDirectory : tree.isDirectoryAt place = false
  lookup?_eq : ∀ p, p ≠ place → tree.isDirectoryAt p = false → other.lookup? p = tree.lookup? p

namespace AgreeBut

variable {place : Place} {tree other : FileTree}

theorem symm (h : AgreeBut place tree other) : AgreeBut place other tree where
  start_eq := h.start_eq.symm
  isDirectoryAt_eq p := (h.isDirectoryAt_eq p).symm
  notDirectory := (h.isDirectoryAt_eq place).trans h.notDirectory
  lookup?_eq p hne hd := (h.lookup?_eq p hne ((h.isDirectoryAt_eq p).symm.trans hd)).symm

theorem origin_eq (h : AgreeBut place tree other) (path : String) :
    other.origin path = tree.origin path := by
  rw [origin, origin, h.start_eq]

theorem isSome_lookup? (h : AgreeBut place tree other) {p : Place} (hne : p ≠ place)
    (hs : (tree.lookup? p).isSome) : (other.lookup? p).isSome := by
  cases hd : tree.isDirectoryAt p with
  | true =>
    obtain ⟨members, hm⟩ := isDirectoryAt_iff.mp ((h.isDirectoryAt_eq p).trans hd)
    rw [hm]
    rfl
  | false => rwa [h.lookup?_eq p hne hd]

theorem step (h : AgreeBut place tree other) {above next : Place} {name : String}
    (hs : tree.step above name = .ok next) (hne : next ≠ place) :
    other.step above name = .ok next := by
  obtain ⟨hd, hleads⟩ := step_ok.mp hs
  refine step_ok.mpr ⟨(h.isDirectoryAt_eq above).trans hd, ?_⟩
  cases hleads with
  | idle hi => exact .idle hi
  | up hi hu => exact .up hi hu
  | down hi hu hl hsome => exact .down hi hu hl (h.isSome_lookup? hne hsome)

theorem follow (h : AgreeBut place tree other) {start next : Place} {names : List String}
    (hf : tree.follow start names = .ok next) (hne : next ≠ place) :
    other.follow start names = .ok next := by
  induction names generalizing start with
  | nil => exact hf
  | cons name rest ih =>
    obtain ⟨middle, hs, hr⟩ := follow_cons_ok.mp hf
    refine follow_cons_ok.mpr ⟨middle, h.step hs ?_, ih hr⟩
    rintro rfl
    cases rest with
    | nil => exact hne (Except.ok.inj hr).symm
    | cons second rest =>
      obtain ⟨_, hsecond, -⟩ := follow_cons_ok.mp hr
      exact absurd (isDirectoryAt_of_step hsecond) (by simp [h.notDirectory])

theorem placeOf (h : AgreeBut place tree other) {path : String} {p : Place}
    (hp : tree.placeOf path = .ok p) (hne : p ≠ place) : other.placeOf path = .ok p := by
  obtain ⟨⟨⟩, hcheck, hfollow⟩ := bind_ok.mp hp
  refine bind_ok.mpr ⟨(), hcheck, ?_⟩
  rw [h.origin_eq]
  exact h.follow hfollow hne

theorem target (h : AgreeBut place tree other) {path : String} {t : Place × String}
    (ht : tree.target path = .ok t) : other.target path = .ok t := by
  obtain ⟨⟨⟩, hcheck, ht⟩ := bind_ok.mp ht
  obtain ⟨directory, hfollow, ht⟩ := bind_ok.mp ht
  refine bind_ok.mpr ⟨(), hcheck, bind_ok.mpr ⟨directory, ?_, ?_⟩⟩
  · rw [h.origin_eq]
    refine h.follow hfollow ?_
    rintro rfl
    simp [h.notDirectory] at ht
  · simp only [h.isDirectoryAt_eq]
    exact ht

end AgreeBut

-- ---------------------------------------------------------------------------
-- Changing an entry
-- ---------------------------------------------------------------------------

theorem lookup?_alter_self {tree : FileTree} {directory : Place} (name : String)
    (change : Option FileEntry → Option FileEntry) (hd : tree.isDirectoryAt directory) :
    (tree.alter (directory ++ [name]) change).lookup? (directory ++ [name]) =
      change (tree.lookup? (directory ++ [name])) := by
  rw [lookup?_alter _ _ _ (by simp), FileEntry.find?_alter_self _ _ _ _ hd]
  rfl

theorem isDirectoryAt_of_below {tree : FileTree} {p q : Place} (h : p <+: q)
    (hq : tree.isDirectoryAt q) : tree.isDirectoryAt p := by
  obtain ⟨rest, rfl⟩ := h
  by_cases hr : rest = []
  · rwa [hr, List.append_nil] at hq
  · obtain ⟨members, hm⟩ := isDirectoryAt_iff.mp hq
    exact tree.isDirectoryAt_above hr (by rw [hm]; rfl)

theorem lookup?_below {tree : FileTree} {p q : Place} (h : p <+: q) (hne : q ≠ p)
    (hp : tree.isDirectoryAt p = false) : tree.lookup? q = none := by
  obtain ⟨rest, rfl⟩ := h
  have hr : rest ≠ [] := by
    rintro rfl
    exact hne (List.append_nil p)
  refine Option.not_isSome_iff_eq_none.mp fun hs => ?_
  exact absurd (tree.isDirectoryAt_above hr hs) (by simp [hp])

theorem isDirectoryAt_of_lookup? {tree : FileTree} {p : Place} {entry : Option FileEntry}
    (h : tree.lookup? p = entry) : tree.isDirectoryAt p = FileEntry.isDirectory entry :=
  congrArg FileEntry.isDirectory h

theorem agreeBut_alter {tree : FileTree} {directory : Place} {name : String}
    {change : Option FileEntry → Option FileEntry} (hd : tree.isDirectoryAt directory)
    (hn : tree.isDirectoryAt (directory ++ [name]) = false)
    (hc : FileEntry.isDirectory (change (tree.lookup? (directory ++ [name]))) = false) :
    AgreeBut (directory ++ [name]) tree (tree.alter (directory ++ [name]) change) := by
  have hself : (tree.alter (directory ++ [name]) change).isDirectoryAt (directory ++ [name]) =
      false := (isDirectoryAt_of_lookup? (lookup?_alter_self name change hd)).trans hc
  have hlookup : ∀ p, p ≠ directory ++ [name] → tree.isDirectoryAt p = false →
      (tree.alter (directory ++ [name]) change).lookup? p = tree.lookup? p := by
    intro p hne hp
    have habove : ¬p <+: directory ++ [name] := by
      intro hinit
      have hdir := isDirectoryAt_of_below ((List.prefix_concat_iff.mp hinit).resolve_left hne) hd
      exact absurd hdir (by simp [hp])
    by_cases hbelow : directory ++ [name] <+: p
    · rw [lookup?_below hbelow hne hself, lookup?_below hbelow hne hn]
    · rw [lookup?_alter _ _ _ (by simp), FileEntry.find?_alter_of_apart _ hbelow habove]
      rfl
  refine ⟨start_alter _ _ _, fun p => ?_, hn, hlookup⟩
  by_cases hp : p = directory ++ [name]
  · rw [hp, hself, hn]
  cases hdir : tree.isDirectoryAt p with
  | false => rw [isDirectoryAt_of_lookup? (hlookup p hp hdir), ← hdir, isDirectoryAt]
  | true =>
    have hbelow : ¬directory ++ [name] <+: p := fun hinit =>
      absurd (isDirectoryAt_of_below hinit hdir) (by simp [hn])
    rw [isDirectoryAt, lookup?_alter _ _ _ (by simp)]
    exact FileEntry.isDirectory_alter _ hbelow hdir

-- ---------------------------------------------------------------------------
-- The file of a path text
-- ---------------------------------------------------------------------------

structure HeldFile where
  mode : Nat
  contents : Bytes
deriving DecidableEq

def HeldFile.entry (file : HeldFile) : FileEntry := .file file.mode file.contents

theorem isDirectory_entry (held : Option HeldFile) :
    FileEntry.isDirectory (held.map HeldFile.entry) = false := by
  cases held <;> rfl

def file? (tree : FileTree) (path : String) : Option HeldFile :=
  match tree.lookup path with
  | .ok (.file mode contents) => some ⟨mode, contents⟩
  | _ => none

theorem lookup_ok {tree : FileTree} {path : String} {entry : FileEntry} :
    tree.lookup path = .ok entry ↔
      ∃ place, tree.placeOf path = .ok place ∧ tree.lookup? place = some entry := by
  rw [lookup, bind_ok]
  refine exists_congr fun place => and_congr_right fun _ => ?_
  split
  · rename_i found hfound
    rw [hfound, pure_ok, Option.some.injEq]
  · rename_i hnone
    rw [hnone]
    simp [throw, throwThe, MonadExceptOf.throw]

theorem file?_eq_some {tree : FileTree} {path : String} {file : HeldFile} :
    tree.file? path = some file ↔ tree.lookup path = .ok file.entry := by
  unfold file?
  split
  · rename_i mode contents hfound
    rw [hfound, Option.some.injEq, Except.ok.injEq, HeldFile.entry, FileEntry.file.injEq]
    exact ⟨fun h => h ▸ ⟨rfl, rfl⟩, fun h => by rw [h.1, h.2]⟩
  · rename_i hother
    simpa [HeldFile.entry] using hother file.mode file.contents

theorem read_ok_iff_file? {tree : FileTree} {path : String} {contents : Bytes} :
    tree.read path = .ok contents ↔
      ∃ file, tree.file? path = some file ∧ file.contents = contents := by
  simp only [file?_eq_some, read, bind_ok]
  constructor
  · rintro ⟨entry, hentry, h⟩
    cases entry with
    | file mode stored => exact ⟨⟨mode, stored⟩, hentry, pure_ok.mp h⟩
    | directory members => contradiction
  · rintro ⟨file, hfile, rfl⟩
    exact ⟨file.entry, hfile, rfl⟩

/-- The path text leads to a name in a directory, where there is a file or nothing. -/
def HoldsAt (tree : FileTree) (path : String) (held : Option HeldFile) : Prop :=
  ∃ directory name, tree.target path = .ok (directory, name) ∧
    tree.lookup? (directory ++ [name]) = held.map HeldFile.entry

/-- Two trees agree but for the file of a path text, which is another one or gone. -/
def SetsFile (tree : FileTree) (path : String) (held : Option HeldFile) (other : FileTree) :
    Prop :=
  ∃ directory name, tree.target path = .ok (directory, name) ∧
    AgreeBut (directory ++ [name]) tree other ∧
    other.lookup? (directory ++ [name]) = held.map HeldFile.entry

variable {tree other : FileTree} {path : String} {held : Option HeldFile}

theorem HoldsAt.placeOf_eq {directory : Place} {name : String}
    (h : tree.target path = .ok (directory, name)) :
    tree.placeOf path = tree.step directory name := by
  obtain ⟨hcheck, -, -, -, -, above, hnames, hfollow⟩ := follow_of_target h
  rw [placeOf, hcheck, hnames]
  change tree.follow (tree.origin path) (above ++ [name]) = _
  rw [follow_append, hfollow]
  exact follow_singleton

theorem HoldsAt.placeOf_none (h : tree.HoldsAt path none) :
    tree.placeOf path = .error .notFound := by
  obtain ⟨directory, name, htarget, hentry⟩ := h
  obtain ⟨-, hd, hi, hu, hl, -⟩ := follow_of_target htarget
  obtain ⟨members, hm⟩ := isDirectoryAt_iff.mp hd
  rw [placeOf_eq htarget]
  simp [step, hm, hi, hu, hl, hentry]

theorem HoldsAt.placeOf_some {directory : Place} {name : String} {file : HeldFile}
    (htarget : tree.target path = .ok (directory, name))
    (hentry : tree.lookup? (directory ++ [name]) = some file.entry) :
    tree.placeOf path = .ok (directory ++ [name]) := by
  obtain ⟨-, hd, hi, hu, hl, -⟩ := follow_of_target htarget
  rw [placeOf_eq htarget]
  exact step_ok.mpr ⟨hd, .down hi hu hl (by rw [hentry]; rfl)⟩

theorem HoldsAt.lookup_eq (h : tree.HoldsAt path held) :
    tree.lookup path = held.elim (.error .notFound) fun file => .ok file.entry := by
  cases held with
  | some file =>
    obtain ⟨directory, name, htarget, hentry⟩ := h
    exact lookup_ok.mpr ⟨_, placeOf_some htarget hentry, hentry⟩
  | none =>
    rw [lookup, h.placeOf_none]
    rfl

theorem HoldsAt.read_eq (h : tree.HoldsAt path held) :
    tree.read path = held.elim (.error .notFound) fun file => .ok file.contents := by
  rw [read, h.lookup_eq]
  cases held <;> rfl

theorem SetsFile.holdsAt (h : tree.SetsFile path held other) : other.HoldsAt path held := by
  obtain ⟨directory, name, htarget, hagree, hentry⟩ := h
  exact ⟨directory, name, hagree.target htarget, hentry⟩

theorem HoldsAt.setsFile_alter {file : Option HeldFile} {directory : Place} {name : String}
    (htarget : tree.target path = .ok (directory, name))
    (hentry : tree.lookup? (directory ++ [name]) = held.map HeldFile.entry) :
    tree.SetsFile path file
      (tree.alter (directory ++ [name]) fun _ => file.map HeldFile.entry) := by
  obtain ⟨-, hd, -⟩ := follow_of_target htarget
  refine ⟨directory, name, htarget, ?_, lookup?_alter_self name _ hd⟩
  refine agreeBut_alter hd ?_ (isDirectory_entry file)
  rw [isDirectoryAt_of_lookup? hentry, isDirectory_entry]

theorem HoldsAt.write (h : tree.HoldsAt path held) (mode : Nat) (contents : Bytes) :
    ∃ written, tree.write path mode contents = .ok written ∧
      tree.SetsFile path (some ⟨held.elim mode HeldFile.mode, contents⟩) written := by
  obtain ⟨directory, name, htarget, hentry⟩ := h
  refine ⟨_, ?_, setsFile_alter htarget hentry⟩
  refine bind_ok.mpr ⟨_, htarget, ?_⟩
  cases held with
  | none =>
    simp only [hentry]
    rfl
  | some file =>
    simp only [hentry]
    rfl

theorem holdsAt_of_write {mode : Nat} {contents : Bytes}
    (h : tree.write path mode contents = .ok other) : ∃ held, tree.HoldsAt path held := by
  obtain ⟨⟨directory, name⟩, htarget, h⟩ := bind_ok.mp h
  dsimp only at h
  split at h
  · contradiction
  · rename_i kept before hentry
    exact ⟨some ⟨kept, before⟩, directory, name, htarget, hentry⟩
  · rename_i hentry
    exact ⟨none, directory, name, htarget, hentry⟩

theorem read_write {mode : Nat} {contents : Bytes}
    (h : tree.write path mode contents = .ok other) : other.read path = .ok contents := by
  obtain ⟨held, hheld⟩ := holdsAt_of_write h
  obtain ⟨written, hwrite, hset⟩ := hheld.write mode contents
  cases h.symm.trans hwrite
  exact hset.holdsAt.read_eq

theorem HoldsAt.removeFile {file : HeldFile} (h : tree.HoldsAt path (some file)) :
    ∃ removed, tree.removeFile path = .ok removed ∧ tree.SetsFile path none removed := by
  obtain ⟨directory, name, htarget, hentry⟩ := h
  refine ⟨_, bind_ok.mpr ⟨_, placeOf_some htarget hentry, ?_⟩, setsFile_alter htarget hentry⟩
  have hfile : tree.isDirectoryAt (directory ++ [name]) = false :=
    isDirectoryAt_of_lookup? hentry
  rw [hfile]
  rfl

-- ---------------------------------------------------------------------------
-- Files of different names in a directory
-- ---------------------------------------------------------------------------

section Join

variable {directory name name' : String} {file : Option HeldFile}

theorem SetsFile.holdsAt_join (h : tree.SetsFile (join directory name) file other)
    (hne : name' ≠ name) (hn : '/' ∉ name.toList) (hn' : '/' ∉ name'.toList)
    (hheld : tree.HoldsAt (join directory name') held) :
    other.HoldsAt (join directory name') held := by
  obtain ⟨place, last, htarget, hagree, -⟩ := h
  obtain ⟨place', last', htarget', hentry⟩ := hheld
  obtain rfl := target_join hn htarget
  obtain rfl := target_join hn' htarget'
  refine ⟨place', last', hagree.target htarget', ?_⟩
  rw [hagree.lookup?_eq, hentry]
  · intro heq
    exact hne (by simpa using (List.append_inj' heq rfl).2)
  · rw [isDirectoryAt_of_lookup? hentry, isDirectory_entry]

theorem AgreeBut.lookup_file {place : Place} (h : AgreeBut place tree other) {file : HeldFile}
    (hne : ∀ p, tree.placeOf path = .ok p → p ≠ place)
    (hfile : tree.lookup path = .ok file.entry) : other.lookup path = .ok file.entry := by
  obtain ⟨p, hplace, hentry⟩ := lookup_ok.mp hfile
  refine lookup_ok.mpr ⟨p, h.placeOf hplace (hne p hplace), ?_⟩
  rw [h.lookup?_eq p (hne p hplace) (isDirectoryAt_of_lookup? hentry), hentry]

theorem SetsFile.file?_join (h : tree.SetsFile (join directory name) file other)
    (hne : name' ≠ name) (hn : '/' ∉ name.toList) (hn' : '/' ∉ name'.toList)
    (hi : isIdle name' = false) (hu : name' ≠ "..") :
    other.file? (join directory name') = tree.file? (join directory name') := by
  obtain ⟨place, last, htarget, hagree, -⟩ := h
  obtain rfl := target_join hn htarget
  have hplace : ∀ (t : FileTree) (p : Place), t.placeOf (join directory name') = .ok p →
      p ≠ place ++ [last] := by
    rintro t p hp rfl
    obtain ⟨above, heq⟩ := placeOf_join hn' hi hu hp
    exact hne (by simpa using (List.append_inj' heq.symm rfl).2)
  ext file
  rw [file?_eq_some, file?_eq_some]
  exact ⟨hagree.symm.lookup_file (hplace other), hagree.lookup_file (hplace tree)⟩

theorem read_write_join {mode : Nat} {contents read : Bytes} (hne : name' ≠ name)
    (hn : '/' ∉ name.toList) (hn' : '/' ∉ name'.toList) (hi : isIdle name' = false)
    (hu : name' ≠ "..") (h : tree.write (join directory name) mode contents = .ok other)
    (hread : tree.read (join directory name') = .ok read) :
    other.read (join directory name') = .ok read := by
  obtain ⟨held, hheld⟩ := holdsAt_of_write h
  obtain ⟨written, hwrite, hset⟩ := hheld.write mode contents
  cases h.symm.trans hwrite
  rw [read_ok_iff_file?] at hread ⊢
  rwa [hset.file?_join hne hn hn' hi hu]

end Join

end SlotWallet.FileTree
