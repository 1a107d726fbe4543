import SlotWallet.Proofs.FileChange

/-!
# Missing directories

Making a directory changes nothing where it is there (`HasDirectory`). Where it is missing,
directories come to be at the places that its path text spells. All files stay where they are
(`sameFiles_makeDirectories`), and as long as no step up is taken from a new directory, no file
comes into sight (`file?_makeDirectories`).
-/

namespace SlotWallet.FileTree

variable {tree other : FileTree} {path : String}

-- ---------------------------------------------------------------------------
-- Directories
-- ---------------------------------------------------------------------------

def HasDirectory (tree : FileTree) (path : String) : Prop :=
  needsNothing path = true ∨ tree.checkDirectory path = .ok ()

theorem HasDirectory.makeDirectories_eq (h : tree.HasDirectory path) :
    tree.makeDirectories path = (.ok (), tree) := by
  unfold makeDirectories
  split
  · rfl
  · rename_i hneeds
    rw [h.resolve_left hneeds]

/-- Making directories changes nothing but where the path text leads nowhere yet. -/
theorem makeDirectories_cases (tree : FileTree) (path : String) :
    (tree.makeDirectories path).2 = tree ∨
      path ≠ "" ∧ tree.checkDirectory path = .error .notFound ∧
        (tree.makeDirectories path).2 =
          (tree.makeAlong (tree.origin path) (missingAlong path)).2 := by
  unfold makeDirectories
  split
  · exact .inl rfl
  · rename_i hneeds
    have hpath : path ≠ "" := by
      rintro rfl
      exact hneeds rfl
    split
    · rename_i hmissing
      exact .inr ⟨hpath, hmissing, rfl⟩
    · exact .inl rfl

theorem hasDirectory_of_makeDirectories (h : tree.makeDirectories path = (.ok (), other)) :
    other.HasDirectory path := by
  unfold makeDirectories at h
  split at h
  · rename_i hneeds
    exact .inl hneeds
  · split at h
    · rename_i hmissing
      obtain ⟨hmade, rfl⟩ := Prod.mk.inj h
      obtain ⟨⟨⟩, -, hcheck⟩ := bind_ok.mp hmade
      exact .inr hcheck
    · obtain ⟨hcheck, rfl⟩ := Prod.mk.inj h
      exact .inr hcheck

theorem checkDirectory_ok :
    tree.checkDirectory path = .ok () ↔ checkPath path = .ok () ∧
      ∃ place, tree.follow (tree.origin path) (stem path) = .ok place ∧
        tree.isDirectoryAt place := by
  unfold checkDirectory
  simp only [bind_ok, stem]
  constructor
  · rintro ⟨⟨⟩, hcheck, place, hfollow, h⟩
    refine ⟨hcheck, place, hfollow, ?_⟩
    split at h
    · assumption
    · contradiction
  · rintro ⟨hcheck, place, hfollow, hd⟩
    exact ⟨(), hcheck, place, hfollow, by rw [if_pos hd]; rfl⟩

theorem hasDirectory_of_read {directory name : String} {contents : Bytes}
    (hn : '/' ∉ name.toList) (h : tree.read (join directory name) = .ok contents) :
    tree.HasDirectory directory := by
  by_cases hd : directory = ""
  · exact .inl (by rw [hd]; rfl)
  obtain ⟨hcheck, place, mode, hfollow, -⟩ := read_ok.mp h
  obtain ⟨slashes, hnames, hslashes⟩ := namesOf_join hd hn
  rw [origin_join tree name hd, hnames] at hfollow
  obtain ⟨last, hlast, hname⟩ := follow_append_ok.mp hfollow
  obtain ⟨there, hstem, hidle⟩ := follow_append_ok.mp hlast
  have hthere : last = there := by
    refine follow_idle (fun slash hs => ?_) hidle
    simp [isIdle, hslashes slash hs]
  have hdir : tree.isDirectoryAt there := hthere ▸ isDirectoryAt_of_step (follow_singleton ▸ hname)
  exact .inr (checkDirectory_ok.mpr ⟨checkPath_of_join hd hcheck, there, hstem, hdir⟩)

theorem AgreeBut.hasDirectory {place : Place} (h : AgreeBut place tree other)
    (hhas : tree.HasDirectory path) : other.HasDirectory path := by
  refine hhas.imp_right fun hcheck => ?_
  obtain ⟨hcheck, directory, hfollow, hd⟩ := checkDirectory_ok.mp hcheck
  refine checkDirectory_ok.mpr ⟨hcheck, directory, ?_, (h.isDirectoryAt_eq _).trans hd⟩
  rw [h.origin_eq]
  refine h.follow hfollow ?_
  rintro rfl
  exact absurd hd (by simp [h.notDirectory])

-- ---------------------------------------------------------------------------
-- Missing directories
-- ---------------------------------------------------------------------------

theorem follow_stem_missing (hpath : path ≠ "")
    (h : tree.checkDirectory path = .error .notFound) :
    tree.follow (tree.origin path) (stem path) = .error .notFound := by
  obtain hcheck | ⟨⟨⟩, -, h⟩ := bind_error.mp h
  · simp only [checkPath, hpath, if_false] at hcheck
    split at hcheck
    · simp at hcheck
    · split at hcheck <;> simp at hcheck
  · obtain hfollow | ⟨place, -, h⟩ := bind_error.mp h
    · exact hfollow
    · split at h <;> simp [throw, throwThe, MonadExceptOf.throw, pure, Except.pure] at h

theorem placeOf_missing {directory name : String} (hd : directory ≠ "") (hn : '/' ∉ name.toList)
    (h : tree.checkDirectory directory = .error .notFound)
    (hcheck : checkPath (join directory name) = .ok ()) :
    tree.placeOf (join directory name) = .error .notFound := by
  obtain ⟨slashes, hnames, -⟩ := namesOf_join hd hn
  rw [placeOf, hcheck, origin_join tree name hd, hnames, List.append_assoc]
  change tree.follow (tree.origin directory) (stem directory ++ (slashes ++ [name])) = _
  rw [follow_append, follow_stem_missing hd h]
  rfl

theorem follow_eq_append {start next : Place} {names : List String} (hup : ".." ∉ names)
    (h : tree.follow start names = .ok next) :
    next = start ++ names.filter (fun name => !isIdle name) := by
  induction names generalizing start with
  | nil => simpa using (Except.ok.inj h).symm
  | cons name rest ih =>
    obtain ⟨middle, hstep, hrest⟩ := follow_cons_ok.mp h
    have hnext := ih (List.not_mem_of_not_mem_cons hup) hrest
    obtain ⟨-, hleads⟩ := step_ok.mp hstep
    cases hleads with
    | idle hi => simpa [hi] using hnext
    | up hi hname => exact absurd (hname ▸ List.mem_cons_self) hup
    | down hi _ _ _ => simpa [hi] using hnext

theorem follow_ne_notFound {start : Place} {names : List String} (hup : ".." ∉ names)
    (hd : tree.isDirectoryAt (start ++ names.filter (fun name => !isIdle name))) :
    tree.follow start names ≠ .error .notFound := by
  induction names generalizing start with
  | nil => exact nofun
  | cons name rest ih =>
    have hrest := List.not_mem_of_not_mem_cons hup
    have hstart : tree.isDirectoryAt start := isDirectoryAt_of_below (List.prefix_append _ _) hd
    intro hfollow
    rw [follow, List.foldlM_cons] at hfollow
    by_cases hi : isIdle name = true
    · rw [step_ok.mpr ⟨hstart, .idle hi⟩] at hfollow
      exact ih hrest (by simpa [hi] using hd) hfollow
    have hi : isIdle name = false := by simpa using hi
    have hname : name ≠ ".." := fun h => hup (h ▸ List.mem_cons_self)
    have hd : tree.isDirectoryAt (start ++ [name] ++ rest.filter (fun name => !isIdle name)) := by
      simpa [hi] using hd
    obtain ⟨members, hm⟩ := isDirectoryAt_iff.mp
      (isDirectoryAt_of_below (List.prefix_append (start ++ [name]) _) hd)
    cases hl : tooLong name with
    | true =>
      obtain ⟨startMembers, hs⟩ := isDirectoryAt_iff.mp hstart
      simp [step, hs, hi, hname, hl, bind, Except.bind] at hfollow
    | false =>
      rw [step_ok.mpr ⟨hstart, .down hi hname hl (by rw [hm]; rfl)⟩] at hfollow
      exact ih hrest hd hfollow

theorem find?_alter_empty {place above : Place} {entry : Option FileEntry}
    (h : FileEntry.find? place entry = none) (hq : ¬above <+: place) :
    FileEntry.find? above (FileEntry.alter (fun _ => some (.directory [])) place entry) =
      FileEntry.find? above entry := by
  fun_induction FileEntry.alter (fun _ => some (.directory [])) place entry generalizing above with
  | case1 entry =>
    cases above with
    | nil => simp at hq
    | cons first below =>
      obtain rfl : entry = none := h
      simp [FileEntry.find?]
  | case2 name rest members ih =>
    cases above with
    | nil => simp at hq
    | cons first below =>
      by_cases hf : first = name
      · subst hf
        simpa [FileEntry.find?, FileEntry.lookup_setMember] using ih h (by simpa using hq)
      · simp [FileEntry.find?, FileEntry.lookup_setMember, hf]
  | case3 => rfl

/-- Directories are made at the places that are spelled, and nothing is changed elsewhere. -/
theorem lookup?_makeAlong {place q : Place} {names : List String} (hup : ".." ∉ names)
    (hq : ¬q <+: place ++ names) :
    (tree.makeAlong place names).2.lookup? q = tree.lookup? q := by
  induction names generalizing tree place with
  | nil => rfl
  | cons name rest ih =>
    have hrest := List.not_mem_of_not_mem_cons hup
    have hname : name ≠ ".." := fun h => hup (h ▸ List.mem_cons_self)
    have hq : ¬q <+: place ++ [name] ++ rest := by simpa using hq
    unfold makeAlong
    rw [if_neg hname]
    split
    · exact ih hrest hq
    · rfl
    · rename_i hnone
      split
      · rfl
      · refine (ih hrest hq).trans ?_
        rw [put, lookup?_alter _ _ _ (by simp)]
        exact find?_alter_empty hnone fun h => hq (h.trans (List.prefix_append _ _))

theorem significant_stem (path : String) :
    (stem path).filter (fun name => !isIdle name) = significantNames path := by
  obtain ⟨slashes, hnames, hslashes⟩ := exists_stem_append path
  have hnone : slashes.filter (fun name => !isIdle name) = [] :=
    List.filter_eq_nil_iff.mpr fun name hname => by simp [isIdle, hslashes name hname]
  rw [significantNames, hnames, List.filter_append, hnone, List.append_nil]

-- ---------------------------------------------------------------------------
-- Trees that have more in them
-- ---------------------------------------------------------------------------

/-- An entry that stays as it is, or a directory in the place of one or of nothing. -/
inductive Grows (before : Option FileEntry) : Option FileEntry → Prop
  | same : Grows before before
  | made {after : Option FileEntry} : before = none ∨ FileEntry.isDirectory before →
      FileEntry.isDirectory after → Grows before after

namespace Grows

variable {before after last : Option FileEntry}

theorem trans (h : Grows before after) (h' : Grows after last) : Grows before last := by
  cases h' with
  | same => exact h
  | made hafter hlast =>
    cases h with
    | same => exact .made hafter hlast
    | made hbefore _ => exact .made hbefore hlast

theorem isDirectory (h : Grows before after) (hd : FileEntry.isDirectory before) :
    FileEntry.isDirectory after := by
  cases h with
  | same => exact hd
  | made _ hafter => exact hafter

theorem isSome (h : Grows before after) (hs : before.isSome) : after.isSome := by
  cases h with
  | same => exact hs
  | made _ hafter =>
    cases after with
    | none => contradiction
    | some entry => rfl

theorem file_iff (h : Grows before after) (file : HeldFile) :
    after = some file.entry ↔ before = some file.entry := by
  cases h with
  | same => rfl
  | made hbefore hafter =>
    constructor
    · rintro rfl
      contradiction
    · rintro rfl
      obtain h | h := hbefore <;> contradiction

theorem alter_empty {place : Place} {entry : Option FileEntry}
    (h : FileEntry.find? place entry = none) (above : Place) :
    Grows (FileEntry.find? above entry)
      (FileEntry.find? above (FileEntry.alter (fun _ => some (.directory [])) place entry)) := by
  fun_induction FileEntry.alter (fun _ => some (.directory [])) place entry generalizing above with
  | case1 entry =>
    obtain rfl : entry = none := h
    cases above with
    | nil => exact .made (.inl rfl) rfl
    | cons first below =>
      simp only [FileEntry.find?, List.lookup_nil, FileEntry.find?_none]
      exact .same
  | case2 name rest members ih =>
    cases above with
    | nil => exact .made (.inr rfl) rfl
    | cons first below =>
      by_cases hf : first = name
      · subst hf
        simpa [FileEntry.find?, FileEntry.lookup_setMember] using ih h below
      · simp only [FileEntry.find?, FileEntry.lookup_setMember, if_neg hf]
        exact .same
  | case3 => exact .same

theorem makeAlong (tree : FileTree) (place : Place) (names : List String) (q : Place) :
    Grows (tree.lookup? q) ((tree.makeAlong place names).2.lookup? q) := by
  fun_induction FileTree.makeAlong tree place names with
  | case1 => exact .same
  | case2 _ _ _ ih => exact ih
  | case3 _ _ _ _ _ _ _ _ ih => exact ih
  | case4 => exact .same
  | case5 => exact .same
  | case6 tree place name rest next hup hnone hshort ih =>
    refine Grows.trans ?_ ih
    rw [put, lookup?_alter _ _ _ (by simp [next])]
    exact alter_empty hnone q

end Grows

structure Extends (tree other : FileTree) : Prop where
  isDirectoryAt : ∀ p, tree.isDirectoryAt p → other.isDirectoryAt p
  isSome_lookup? : ∀ p, (tree.lookup? p).isSome → (other.lookup? p).isSome

namespace Extends

theorem follow (h : Extends tree other) {start next : Place} {names : List String}
    (hf : tree.follow start names = .ok next) : other.follow start names = .ok next := by
  induction names generalizing start with
  | nil => exact hf
  | cons name rest ih =>
    obtain ⟨middle, hstep, hrest⟩ := follow_cons_ok.mp hf
    obtain ⟨hd, hleads⟩ := step_ok.mp hstep
    refine follow_cons_ok.mpr ⟨middle, step_ok.mpr ⟨h.isDirectoryAt start hd, ?_⟩, ih hrest⟩
    cases hleads with
    | idle hi => exact .idle hi
    | up hi hu => exact .up hi hu
    | down hi hu hl hs => exact .down hi hu hl (h.isSome_lookup? _ hs)

theorem makeAlong (tree : FileTree) (place : Place) (names : List String) :
    Extends tree (tree.makeAlong place names).2 :=
  ⟨fun p hp => (Grows.makeAlong tree place names p).isDirectory hp,
    fun p hp => (Grows.makeAlong tree place names p).isSome hp⟩

end Extends

-- ---------------------------------------------------------------------------
-- What comes into sight
-- ---------------------------------------------------------------------------

theorem makeAlong_of_follow {place next : Place} {names rest : List String}
    (hf : tree.follow place names = .ok next) (hd : tree.isDirectoryAt next) :
    tree.makeAlong place (names.filter (fun name => !isIdle name) ++ rest) =
      tree.makeAlong next rest := by
  induction names generalizing place with
  | nil =>
    obtain rfl : place = next := Except.ok.inj hf
    rfl
  | cons name names ih =>
    obtain ⟨middle, hstep, hrest⟩ := follow_cons_ok.mp hf
    have hmiddle : tree.isDirectoryAt middle := by
      cases names with
      | nil =>
        obtain rfl : middle = next := Except.ok.inj hrest
        exact hd
      | cons second names =>
        obtain ⟨_, hsecond, -⟩ := follow_cons_ok.mp hrest
        exact isDirectoryAt_of_step hsecond
    rw [← ih hrest]
    cases (step_ok.mp hstep).2 with
    | idle hi => rw [List.filter_cons_of_neg (by simp [hi])]
    | up hi hu =>
      rw [List.filter_cons_of_pos (by simp [hi]), List.cons_append, makeAlong, if_pos hu]
    | down hi hu =>
      obtain ⟨members, hm⟩ := isDirectoryAt_iff.mp hmiddle
      rw [List.filter_cons_of_pos (by simp [hi]), List.cons_append, makeAlong, if_neg hu, hm]

/-- If the directory is missing, some first names of its path text lead to one that is there,
and no step up is among the others: a step up leads elsewhere once what it is taken from has
been made. -/
def Straight (tree : FileTree) (directory : String) : Prop :=
  tree.checkDirectory directory = .error .notFound →
    ∃ front back place, stem directory = front ++ back ∧ ".." ∉ back ∧
      tree.follow (tree.origin directory) front = .ok place ∧ tree.isDirectoryAt place

theorem exists_missingAlong {directory : String} {front back : List String}
    (hstem : stem directory = front ++ back)
    (hback : back.filter (fun name => !isIdle name) ≠ []) :
    ∃ made, missingAlong directory = front.filter (fun name => !isIdle name) ++ made ∧
      made <+: back.filter (fun name => !isIdle name) := by
  have hnames : significantNames directory =
      front.filter (fun name => !isIdle name) ++ back.filter (fun name => !isIdle name) := by
    rw [← significant_stem, hstem, List.filter_append]
  unfold missingAlong
  rw [hnames]
  split
  · exact ⟨_, List.dropLast_append_of_ne_nil hback, List.dropLast_prefix _⟩
  · exact ⟨_, rfl, List.prefix_refl _⟩

theorem start_makeAlong (tree : FileTree) (place : Place) (names : List String) :
    (tree.makeAlong place names).2.start = tree.start := by
  fun_induction makeAlong tree place names with
  | case1 => rfl
  | case2 _ _ _ ih => exact ih
  | case3 _ _ _ _ _ _ _ _ ih => exact ih
  | case4 => rfl
  | case5 => rfl
  | case6 tree _ _ _ _ _ _ _ ih => exact ih.trans (start_alter tree _ _)

theorem origin_makeAlong (tree : FileTree) (place : Place) (names : List String)
    (path : String) : (tree.makeAlong place names).2.origin path = tree.origin path := by
  rw [origin, start_makeAlong, ← origin]

def SameFiles (tree other : FileTree) : Prop :=
  ∀ place (file : HeldFile),
    other.lookup? place = some file.entry ↔ tree.lookup? place = some file.entry

theorem sameFiles_makeDirectories (tree : FileTree) (directory : String) :
    tree.SameFiles (tree.makeDirectories directory).2 := by
  intro place file
  obtain hsame | ⟨-, -, hmade⟩ := tree.makeDirectories_cases directory
  · rw [hsame]
  · rw [hmade]
    exact (Grows.makeAlong tree _ _ place).file_iff file

theorem file?_makeDirectories_of_some {file : HeldFile} (directory : String)
    (h : tree.file? path = some file) :
    (tree.makeDirectories directory).2.file? path = some file := by
  have hsame := sameFiles_makeDirectories tree directory
  obtain hkept | ⟨-, -, hmade⟩ := tree.makeDirectories_cases directory
  · rwa [hkept]
  obtain ⟨place, hplace, hentry⟩ := lookup_ok.mp (file?_eq_some.mp h)
  obtain ⟨⟨⟩, hcheck, hfollow⟩ := bind_ok.mp hplace
  refine file?_eq_some.mpr (lookup_ok.mpr ⟨place, bind_ok.mpr ⟨(), hcheck, ?_⟩,
    (hsame place file).mpr hentry⟩)
  have hextends := Extends.makeAlong tree (tree.origin directory) (missingAlong directory)
  rw [hmade, origin_makeAlong]
  exact hextends.follow hfollow

theorem file?_makeDirectories {directory name : String} (h : tree.Straight directory)
    (hn : '/' ∉ name.toList) (hi : isIdle name = false) (hu : name ≠ "..") :
    (tree.makeDirectories directory).2.file? (join directory name) =
      tree.file? (join directory name) := by
  obtain hsame | ⟨hd, hmissing, hmade⟩ := tree.makeDirectories_cases directory
  · rw [hsame]
  obtain ⟨front, back, place, hstem, hup, hfront, hplace⟩ := h hmissing
  have hback : tree.follow place back = .error .notFound := by
    have hfollow := follow_stem_missing hd hmissing
    rwa [hstem, follow_append, hfront] at hfollow
  -- the names behind what is there spell no directory
  have habsent : ¬tree.isDirectoryAt (place ++ back.filter (fun name => !isIdle name)) :=
    fun hdir => follow_ne_notFound hup hdir hback
  have hspelled : back.filter (fun name => !isIdle name) ≠ [] := by
    intro hnil
    rw [hnil, List.append_nil] at habsent
    exact habsent hplace
  obtain ⟨made, hmadeNames, hinit⟩ := exists_missingAlong hstem hspelled
  have hupMade : ".." ∉ made := fun hmem => hup (List.mem_filter.mp (hinit.subset hmem)).1
  rw [hmade, hmadeNames, makeAlong_of_follow hfront hplace]
  have hbefore : tree.file? (join directory name) = none := by
    refine Option.eq_none_iff_forall_ne_some.mpr fun file hfile => ?_
    obtain ⟨found, hfound, -⟩ := lookup_ok.mp (file?_eq_some.mp hfile)
    obtain ⟨⟨⟩, hcheck, -⟩ := bind_ok.mp hfound
    exact nomatch (placeOf_missing hd hn hmissing hcheck).symm.trans hfound
  rw [hbefore]
  refine Option.eq_none_iff_forall_ne_some.mpr fun file hfile => ?_
  obtain ⟨found, hfound, hentry⟩ := lookup_ok.mp (file?_eq_some.mp hfile)
  obtain ⟨⟨⟩, -, hfollow⟩ := bind_ok.mp hfound
  -- the file would be at the place that its path text spells, where nothing was or is made
  have hspells : found = place ++ back.filter (fun name => !isIdle name) ++ [name] := by
    obtain ⟨slashes, hnames, hslashes⟩ := namesOf_join hd hn
    have horigin : (tree.makeAlong place made).2.origin (join directory name) =
        tree.origin directory := by
      rw [origin_makeAlong, origin_join tree name hd]
    rw [horigin, hnames, hstem, List.append_assoc, List.append_assoc, follow_append,
      (Extends.makeAlong tree place made).follow hfront] at hfollow
    have hnone : slashes.filter (fun name => !isIdle name) = [] :=
      List.filter_eq_nil_iff.mpr fun slash hslash => by simp [isIdle, hslashes slash hslash]
    have hupRest : ".." ∉ back ++ (slashes ++ [name]) := by
      simp only [List.mem_append, List.mem_singleton, not_or]
      exact ⟨hup, fun hslash => absurd (hslashes _ hslash) (by decide), hu.symm⟩
    simpa [hnone, hi] using follow_eq_append hupRest hfollow
  have houtside : ¬found <+: place ++ made := by
    intro hbelow
    have hlength := hbelow.length_le
    have hshort := hinit.length_le
    rw [hspells] at hlength
    simp only [List.length_append, List.length_singleton] at hlength
    omega
  rw [lookup?_makeAlong hupMade houtside, hspells] at hentry
  refine habsent (tree.isDirectoryAt_above (List.cons_ne_nil name []) ?_)
  rw [hentry]
  rfl

end SlotWallet.FileTree
