import SlotWallet.FileTree.Directories
import SlotWallet.Proofs.Success

/-!
# Where path texts lead

A name leads on from a directory in one of three ways (`Leads`), and a path text for a
file in a directory has the names of the directory in front of that of the file
(`namesOf_join`).
-/

namespace SlotWallet.FileTree

-- ---------------------------------------------------------------------------
-- Following names
-- ---------------------------------------------------------------------------

theorem isDirectoryAt_iff {tree : FileTree} {place : Place} :
    tree.isDirectoryAt place ↔ ∃ members, tree.lookup? place = some (.directory members) := by
  unfold isDirectoryAt
  match h : tree.lookup? place with
  | none => simp [FileEntry.isDirectory]
  | some (.file ..) => simp [FileEntry.isDirectory]
  | some (.directory members) => simp [FileEntry.isDirectory]

inductive Leads (tree : FileTree) (place : Place) (name : String) : Place → Prop
  | idle : isIdle name = true → Leads tree place name place
  | up : isIdle name = false → name = ".." → Leads tree place name place.dropLast
  | down : isIdle name = false → name ≠ ".." → tooLong name = false →
      (tree.lookup? (place ++ [name])).isSome → Leads tree place name (place ++ [name])

theorem step_ok {tree : FileTree} {place next : Place} {name : String} :
    tree.step place name = .ok next ↔ tree.isDirectoryAt place ∧ tree.Leads place name next := by
  constructor
  · intro h
    unfold step at h
    split at h
    · contradiction
    · contradiction
    rename_i members hm
    refine ⟨isDirectoryAt_iff.mpr ⟨members, hm⟩, ?_⟩
    split at h
    · rename_i hi
      cases h
      exact .idle hi
    · rename_i hi
      have hi : isIdle name = false := by simpa using hi
      split at h
      · rename_i hu
        cases h
        exact .up hi hu
      · rename_i hu
        split at h
        · contradiction
        · rename_i hl
          split at h
          · contradiction
          · rename_i hs
            cases h
            exact .down hi hu (by simpa using hl) (by simpa [Option.isSome_iff_ne_none] using hs)
  · rintro ⟨hd, hleads⟩
    obtain ⟨members, hm⟩ := isDirectoryAt_iff.mp hd
    rw [step, hm]
    dsimp only
    cases hleads with
    | idle hi => rw [if_pos hi]
    | up hi hu => rw [if_neg (by simp [hi]), if_pos hu]
    | down hi hu hl hs =>
      rw [if_neg (by simp [hi]), if_neg hu, if_neg (by simp [hl]),
        if_neg (by simpa [Option.isSome_iff_ne_none] using hs)]

theorem isDirectoryAt_of_step {tree : FileTree} {place next : Place} {name : String}
    (h : tree.step place name = .ok next) : tree.isDirectoryAt place :=
  (step_ok.mp h).1

theorem step_eq_concat {tree : FileTree} {place next : Place} {name : String}
    (h : tree.step place name = .ok next) (hi : isIdle name = false) (hu : name ≠ "..") :
    next = place ++ [name] := by
  cases (step_ok.mp h).2 with
  | idle hidle => exact absurd hidle (by simp [hi])
  | up _ hup => exact absurd hup hu
  | down => rfl

theorem step_of_isIdle {tree : FileTree} {place next : Place} {name : String}
    (h : tree.step place name = .ok next) (hi : isIdle name = true) : next = place := by
  cases (step_ok.mp h).2 with
  | idle => rfl
  | up hno => exact absurd hi (by simp [hno])
  | down hno => exact absurd hi (by simp [hno])

theorem follow_append (tree : FileTree) (place : Place) (names rest : List String) :
    tree.follow place (names ++ rest) =
      tree.follow place names >>= fun middle => tree.follow middle rest :=
  List.foldlM_append

theorem follow_append_ok {tree : FileTree} {place next : Place} {names rest : List String} :
    tree.follow place (names ++ rest) = .ok next ↔
      ∃ middle, tree.follow place names = .ok middle ∧ tree.follow middle rest = .ok next := by
  rw [follow_append, bind_ok]

theorem follow_cons_ok {tree : FileTree} {place next : Place} {name : String}
    {rest : List String} :
    tree.follow place (name :: rest) = .ok next ↔
      ∃ middle, tree.step place name = .ok middle ∧ tree.follow middle rest = .ok next := by
  simp only [follow, List.foldlM_cons, bind_ok]

theorem follow_singleton {tree : FileTree} {place : Place} {name : String} :
    tree.follow place [name] = tree.step place name := by
  simp [follow]

theorem follow_idle {tree : FileTree} {place next : Place} {names : List String}
    (hi : ∀ name ∈ names, isIdle name = true) (h : tree.follow place names = .ok next) :
    next = place := by
  induction names generalizing place with
  | nil => exact (Except.ok.inj h).symm
  | cons name names ih =>
    obtain ⟨middle, hstep, hrest⟩ := follow_cons_ok.mp h
    rw [step_of_isIdle hstep (hi name List.mem_cons_self)] at hrest
    exact ih (fun other ho => hi other (List.mem_cons_of_mem name ho)) hrest

-- ---------------------------------------------------------------------------
-- Targets
-- ---------------------------------------------------------------------------

theorem splitLast_of_getLast? {path : String} (h : (namesOf path).getLast? ≠ some "")
    (hn : (splitLast path).2 ≠ "") :
    namesOf path = (splitLast path).1 ++ [(splitLast path).2] := by
  unfold splitLast at hn ⊢
  generalize namesOf path = names at h hn ⊢
  rw [List.getLast?_eq_head?_reverse] at h
  match hr : names.reverse with
  | [] => simp [hr] at hn
  | name :: rest =>
    have hne : name ≠ "" := by
      rintro rfl
      simp [hr] at h
    have := congrArg List.reverse hr
    simpa [hne] using this

theorem follow_of_target {tree : FileTree} {path name : String} {directory : Place}
    (h : tree.target path = .ok (directory, name)) :
    checkPath path = .ok () ∧ tree.isDirectoryAt directory ∧ isIdle name = false ∧ name ≠ ".." ∧
      tooLong name = false ∧ ∃ above, namesOf path = above ++ [name] ∧
        tree.follow (tree.origin path) above = .ok directory := by
  obtain ⟨⟨⟩, hcheck, h⟩ := bind_ok.mp h
  obtain ⟨names, last, hsplit⟩ : ∃ names last, splitLast path = (names, last) := ⟨_, _, rfl⟩
  rw [hsplit] at h
  obtain ⟨found, hfollow, h⟩ := bind_ok.mp h
  split at h
  · contradiction
  · rename_i hd
    split at h
    · contradiction
    · rename_i hname
      split at h
      · contradiction
      · rename_i hl
        cases h
        simp only [not_or] at hname
        obtain ⟨hslash, hi, hu⟩ := hname
        have hne : name ≠ "" := fun hempty => by simp [hempty, isIdle] at hi
        have hnames := splitLast_of_getLast? hslash (by rw [hsplit]; exact hne)
        rw [hsplit] at hnames
        exact ⟨hcheck, by simpa using hd, by simpa using hi, hu, by simpa using hl, names, hnames,
          hfollow⟩

-- ---------------------------------------------------------------------------
-- Reading
-- ---------------------------------------------------------------------------

theorem read_ok {tree : FileTree} {path : String} {contents : Bytes} :
    tree.read path = .ok contents ↔
      checkPath path = .ok () ∧ ∃ place mode,
        tree.follow (tree.origin path) (namesOf path) = .ok place ∧
          tree.lookup? place = some (.file mode contents) := by
  constructor
  · intro h
    obtain ⟨entry, hentry, h⟩ := bind_ok.mp h
    obtain ⟨place, hplace, hentry⟩ := bind_ok.mp hentry
    obtain ⟨⟨⟩, hcheck, hfollow⟩ := bind_ok.mp hplace
    split at hentry
    · rename_i found hfound
      cases hentry
      cases entry with
      | file mode stored =>
        cases h
        exact ⟨hcheck, place, mode, hfollow, hfound⟩
      | directory members => contradiction
    · contradiction
  · rintro ⟨hcheck, place, mode, hfollow, hlookup⟩
    simp [read, lookup, placeOf, hcheck, hfollow, hlookup, bind, Except.bind, pure, Except.pure]

-- ---------------------------------------------------------------------------
-- Files in a directory
-- ---------------------------------------------------------------------------

/-- The names of a path text without the slashes behind it. -/
def stem (path : String) : List String := ((namesOf path).reverse.dropWhile (· = "")).reverse

theorem exists_stem_append (path : String) :
    ∃ slashes, namesOf path = stem path ++ slashes ∧ ∀ name ∈ slashes, name = "" := by
  refine ⟨((namesOf path).reverse.takeWhile (· = "")).reverse, ?_, ?_⟩
  · rw [stem, ← List.reverse_append, List.takeWhile_append_dropWhile, List.reverse_reverse]
  · intro name hname
    simpa using List.all_eq_true.mp List.all_takeWhile name (List.mem_reverse.mp hname)

theorem namesOf_append_slash (front name : String) (h : '/' ∉ name.toList) :
    namesOf (front ++ "/" ++ name) = namesOf front ++ [name] := by
  simp [namesOf, List.splitOn_append_cons_self, List.splitOn_eq_singleton h]

theorem stem_append_slash (front : String) : stem (front ++ "/") = stem front := by
  have hnames : namesOf (front ++ "/") = namesOf front ++ [""] := by
    simpa using namesOf_append_slash front "" (by simp)
  simp [stem, hnames]

/-- The names of a file in a directory are those of the directory, but for slashes
behind it, and its own. -/
theorem namesOf_join {directory name : String} (hd : directory ≠ "") (h : '/' ∉ name.toList) :
    ∃ slashes, namesOf (join directory name) = stem directory ++ slashes ++ [name] ∧
      ∀ slash ∈ slashes, slash = "" := by
  unfold join
  rw [if_neg hd]
  split
  · rename_i hlast
    obtain ⟨chars, hchars⟩ := List.getLast?_eq_some_iff.mp hlast
    have hfront : directory = String.ofList chars ++ "/" := by
      rw [← String.toList_inj, hchars]
      simp
    obtain ⟨slashes, hnames, hslashes⟩ := exists_stem_append (String.ofList chars)
    refine ⟨slashes, ?_, hslashes⟩
    rw [hfront, namesOf_append_slash _ _ h, stem_append_slash, hnames]
  · obtain ⟨slashes, hnames, hslashes⟩ := exists_stem_append directory
    exact ⟨slashes, by rw [namesOf_append_slash _ _ h, hnames], hslashes⟩

theorem exists_join_eq_append (directory name : String) :
    ∃ rest, join directory name = directory ++ rest := by
  unfold join
  split
  · rename_i hd
    exact ⟨name, by simp [hd]⟩
  · split
    · exact ⟨name, rfl⟩
    · exact ⟨"/" ++ name, String.append_assoc⟩

theorem origin_join (tree : FileTree) {directory : String} (name : String) (hd : directory ≠ "") :
    tree.origin (join directory name) = tree.origin directory := by
  obtain ⟨rest, hjoin⟩ := exists_join_eq_append directory name
  have hhead : (join directory name).toList.head? = directory.toList.head? := by
    rw [hjoin, String.toList_append]
    cases hl : directory.toList with
    | nil => exact absurd (String.toList_eq_nil_iff.mp hl) hd
    | cons c rest => rfl
  simp [origin, isAbsolute, hhead]

theorem checkPath_ok {path : String} :
    checkPath path = .ok () ↔
      path.toList.any (fun c => c.toNat = 0) = false ∧ path ≠ "" ∧
        path.utf8ByteSize ≤ maxPathLength := by
  unfold checkPath
  split
  · rename_i hnul
    simp [hnul]
  · split
    · rename_i hempty
      simp [hempty]
    · split
      · rename_i hlong
        simp [Nat.not_le.mpr hlong]
      · simp_all

theorem checkPath_of_join {directory name : String} (hd : directory ≠ "")
    (h : checkPath (join directory name) = .ok ()) : checkPath directory = .ok () := by
  obtain ⟨rest, hjoin⟩ := exists_join_eq_append directory name
  obtain ⟨hnul, -, hsize⟩ := checkPath_ok.mp h
  rw [hjoin, String.toList_append, List.any_append, Bool.or_eq_false_iff] at hnul
  rw [hjoin, String.utf8ByteSize_append] at hsize
  exact checkPath_ok.mpr ⟨hnul.1, hd, Nat.le_of_add_right_le hsize⟩

-- ---------------------------------------------------------------------------
-- Files of different names
-- ---------------------------------------------------------------------------

theorem namesOf_join_concat (directory : String) {name : String} (hn : '/' ∉ name.toList) :
    ∃ front, namesOf (join directory name) = front ++ [name] := by
  by_cases hd : directory = ""
  · exact ⟨[], by simp [join, hd, namesOf, List.splitOn_eq_singleton hn]⟩
  · obtain ⟨slashes, hnames, -⟩ := namesOf_join hd hn
    exact ⟨_, hnames⟩

theorem placeOf_join {tree : FileTree} {directory name : String} {place : Place}
    (hn : '/' ∉ name.toList) (hi : isIdle name = false) (hu : name ≠ "..")
    (h : tree.placeOf (join directory name) = .ok place) : ∃ above, place = above ++ [name] := by
  obtain ⟨⟨⟩, -, hfollow⟩ := bind_ok.mp h
  obtain ⟨front, hfront⟩ := namesOf_join_concat directory hn
  rw [hfront] at hfollow
  obtain ⟨above, -, hname⟩ := follow_append_ok.mp hfollow
  exact ⟨above, step_eq_concat (follow_singleton ▸ hname) hi hu⟩

theorem target_join {tree : FileTree} {directory name last : String} {place : Place}
    (hn : '/' ∉ name.toList) (h : tree.target (join directory name) = .ok (place, last)) :
    last = name := by
  obtain ⟨front, hfront⟩ := namesOf_join_concat directory hn
  obtain ⟨-, -, -, -, -, above, habove, -⟩ := follow_of_target h
  have hlast := habove.symm.trans hfront
  simpa using (List.append_inj' hlast rfl).2

end SlotWallet.FileTree
