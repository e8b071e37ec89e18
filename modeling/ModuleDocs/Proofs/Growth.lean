import ModuleDocs.Proofs.FileTree

/-! # Trees that grow by one file

Setting a file, and making the directories that lead to it, leaves everything else in a tree as it was
(`FileTree.Grows`). So a path that led somewhere else leads there still (`Grows.walk_eq_ok`), and a path that leads to
a directory either did so before or leads to one that was not there at all (`Grows.walk_directory`). -/
set_option autoImplicit false

namespace ModuleDocs.FileTree

/-! ## Growth -/

/-- One tree after another, between which nothing has happened but that a file was set at a location and that
directories were made on the way to it. -/
structure Grows (loc : Location) (tree tree' : FileTree) : Prop where
  kept : ∀ {other : Location} {entry : Entry}, other ≠ loc → tree.at? other = some entry →
    tree'.at? other = some entry
  added : ∀ {other : Location} {entry : Entry}, other ≠ loc → tree'.at? other = some entry →
    tree.at? other = some entry ∨ (tree.at? other = none ∧ entry = .directory ∧ other <+: loc)
  directory : tree'.at? loc = some .directory → tree.at? loc = some .directory
  names : ∀ {dir : Location} {shown : String → Bool}, (∀ name, loc = dir ++ [name] → shown name = false) →
    (tree'.fileNames dir).filter shown = (tree.fileNames dir).filter shown

theorem Grows.refl (loc : Location) (tree : FileTree) : tree.Grows loc tree :=
  ⟨fun _ h => h, fun _ h => .inl h, fun h => h, fun _ => rfl⟩

theorem Grows.trans {loc : Location} {tree₁ tree₂ tree₃ : FileTree} (h : tree₁.Grows loc tree₂)
    (h' : tree₂.Grows loc tree₃) : tree₁.Grows loc tree₃ where
  kept hne hentry := h'.kept hne (h.kept hne hentry)
  added := by
    intro other entry hne hentry
    rcases h'.added hne hentry with hold | ⟨hnone, hdir, hlead⟩
    · exact h.added hne hold
    · refine .inr ⟨?_, hdir, hlead⟩
      cases hat : tree₁.at? other with
      | none => rfl
      | some old => exact absurd (hnone.symm.trans (h.kept hne hat)) (by simp)
  directory hdir := h.directory (h'.directory hdir)
  names hshown := (h'.names hshown).trans (h.names hshown)

/-! ## Single changes -/

theorem fileNames_cons (e : Location × Entry) (entries : List (Location × Entry)) (dir : Location) :
    fileNames ⟨e :: entries⟩ dir = fileNames ⟨[e]⟩ dir ++ fileNames ⟨entries⟩ dir := by
  unfold fileNames
  rw [← List.filterMap_append, List.singleton_append]

theorem filter_fileNames_singleton {loc dir : Location} (hloc : loc ≠ []) {shown : String → Bool}
    (hshown : ∀ name, loc = dir ++ [name] → shown name = false) (entry : Entry) :
    (fileNames ⟨[(loc, entry)]⟩ dir).filter shown = [] := by
  cases entry with
  | directory => rfl
  | file text executable =>
    obtain ⟨parent, name, rfl⟩ : ∃ parent name, loc = parent ++ [name] :=
      ⟨_, _, (List.dropLast_concat_getLast hloc).symm⟩
    by_cases hdir : parent = dir
    · subst hdir
      simp [fileNames, hshown name rfl]
    · simp [fileNames, hdir]

theorem filter_fileNames_replace {loc dir : Location} {shown : String → Bool}
    (hself : ∀ entry, (fileNames ⟨[(loc, entry)]⟩ dir).filter shown = []) (entries : List (Location × Entry))
    (text : String) (executable : Bool) :
    (fileNames ⟨entries.map fun e => if e.1 = loc then (loc, .file text executable) else e⟩ dir).filter shown =
      (fileNames ⟨entries⟩ dir).filter shown := by
  induction entries with
  | nil => rfl
  | cons e entries ih =>
    rw [List.map_cons, fileNames_cons, fileNames_cons e, List.filter_append, List.filter_append, ih]
    by_cases he : e.1 = loc
    · subst he
      rw [if_pos rfl, hself, hself e.2]
    · rw [if_neg he]

theorem grows_put_file (tree : FileTree) {loc : Location} (hloc : loc ≠ []) (text : String) (executable : Bool) :
    tree.Grows loc (tree.put loc (.file text executable)) where
  kept hne hentry := by rw [at?_put tree hloc, if_neg hne, hentry]
  added hne hentry := by
    rw [at?_put tree hloc, if_neg hne] at hentry
    exact .inl hentry
  directory hdir := by
    rw [at?_put tree hloc, if_pos rfl] at hdir
    cases hdir
  names := by
    intro dir shown hshown
    have hself := filter_fileNames_singleton hloc hshown
    unfold put
    split
    · exact filter_fileNames_replace hself tree.entries text executable
    · have happend : fileNames ⟨tree.entries ++ [(loc, .file text executable)]⟩ dir =
          tree.fileNames dir ++ fileNames ⟨[(loc, .file text executable)]⟩ dir := List.filterMap_append
      rw [happend, List.filter_append, hself, List.append_nil]

theorem grows_put_directory {tree : FileTree} {loc dir : Location} (hlead : dir <+: loc) (hne : dir ≠ loc)
    (hnone : tree.at? dir = none) : tree.Grows loc (tree.put dir .directory) := by
  have hdir : dir ≠ [] := by
    rintro rfl
    cases hnone
  have hany : ¬ tree.entries.any (·.1 = dir) := by
    intro hany
    obtain ⟨e, he, hkey⟩ := List.any_eq_true.mp hany
    unfold at? at hnone
    rw [if_neg (fun h => hdir (List.isEmpty_iff.mp h)), List.lookup_eq_none_iff] at hnone
    exact absurd (hnone e he) (by simpa using (of_decide_eq_true hkey).symm)
  constructor
  · intro other entry _ hentry
    rw [at?_put tree hdir, if_neg, hentry]
    rintro rfl
    exact absurd (hnone.symm.trans hentry) (by simp)
  · intro other entry _ hentry
    rw [at?_put tree hdir] at hentry
    by_cases ho : other = dir
    · rw [if_pos ho] at hentry
      cases hentry
      exact .inr ⟨ho ▸ hnone, rfl, ho ▸ hlead⟩
    · rw [if_neg ho] at hentry
      exact .inl hentry
  · intro hloc
    rwa [at?_put tree hdir, if_neg hne.symm] at hloc
  · intro at' shown _
    have hput : tree.put dir .directory = ⟨tree.entries ++ [(dir, .directory)]⟩ := by
      rw [put, if_neg hany]
    have hnames : fileNames ⟨tree.entries ++ [(dir, .directory)]⟩ at' = tree.fileNames at' ++ [] :=
      List.filterMap_append
    rw [hput, hnames, List.append_nil]

/-! ## Changes that a disk may break off -/

section Changes
variable (tree : FileTree) (disk : Disk)

/-- Directories are made above a location, never at it. -/
theorem grows_makeDirectories {done loc : Location} {names : List String} {name : String}
    (hloc : loc = done ++ names ++ [name]) :
    tree.Grows loc (after (tree.makeDirectories done names disk)) ∧
      (after (tree.makeDirectories done names disk)).at? loc = tree.at? loc := by
  induction names generalizing tree done with
  | nil => exact ⟨.refl loc tree, rfl⟩
  | cons first more ih =>
    have hloc' : loc = done ++ [first] ++ more ++ [name] := by simpa using hloc
    rw [makeDirectories]
    cases hat : tree.at? (done ++ [first]) with
    | none =>
      dsimp only
      split
      · have hlead : done ++ [first] <+: loc := by
          rw [hloc', List.append_assoc]
          exact List.prefix_append _ _
        have hne : done ++ [first] ≠ loc := by
          intro e
          have hlen := congrArg List.length (e.trans hloc')
          simp at hlen
        obtain ⟨hgrows, hsame⟩ := ih (tree.put (done ++ [first]) .directory) hloc'
        refine ⟨(grows_put_directory hlead hne hat).trans hgrows, hsame.trans ?_⟩
        rw [at?_put tree (by simp), if_neg hne.symm]
      · exact ⟨.refl loc tree, rfl⟩
    | some entry =>
      cases entry with
      | directory => exact ih tree hloc'
      | file text executable => exact ⟨.refl loc tree, rfl⟩

theorem Grows.bind {tree : FileTree} {loc : Location} {x : Except Stopped FileTree}
    {f : FileTree → Except Stopped FileTree} (hx : tree.Grows loc (after x))
    (hf : ∀ tree' : FileTree, tree'.Grows loc (after (f tree'))) : tree.Grows loc (after (x >>= f)) := by
  cases x with
  | error stop => exact hx
  | ok tree' => exact hx.trans (hf tree')

theorem grows_touch {loc : Location} (hloc : loc ≠ []) : tree.Grows loc (after (tree.touch loc disk)) := by
  unfold touch
  split
  · exact grows_put_file tree hloc "" false
  · exact .refl loc _

theorem store_cases (loc : Location) (executable : Bool) (text : String) :
    tree.store loc executable text disk = .error ⟨.diskFailure, tree⟩ ∨
      tree.store loc executable text disk = .ok (tree.put loc (.file text executable)) ∨
      ∃ n, disk.room loc text = some n ∧ tree.store loc executable text disk =
        .error ⟨.diskFailure, tree.put loc (.file (beginning n text) executable)⟩ := by
  unfold store
  split
  · split
    · exact .inr (.inl rfl)
    · next n hroom => exact .inr (.inr ⟨n, hroom, rfl⟩)
  · exact .inl rfl

/-- A write fails before it does anything, or it stores the text in the place of a file, of which it keeps the mode. -/
theorem write_cases (loc : Location) (text : String) :
    (∃ e, tree.write loc text disk = .error ⟨e, tree⟩) ∨
      ∃ executable, loc ≠ [] ∧ (∀ entry, tree.at? loc = some entry → ∃ old, entry = .file old executable) ∧
        tree.write loc text disk = tree.store loc executable text disk := by
  unfold write
  split
  · exact .inl ⟨_, rfl⟩
  · next old executable hat =>
    refine .inr ⟨executable, ?_, fun entry hentry => ⟨old, ?_⟩, rfl⟩
    · rintro rfl
      cases hat
    · exact Option.some.inj (hentry.symm.trans hat)
  · next hat =>
    split
    · exact .inl ⟨_, rfl⟩
    · exact .inl ⟨_, rfl⟩
    · split
      · refine .inr ⟨false, ?_, fun entry hentry => ?_, rfl⟩
        · rintro rfl
          cases hat
        · cases hat.symm.trans hentry
      · exact .inl ⟨_, rfl⟩

theorem grows_write (loc : Location) (text : String) : tree.Grows loc (after (tree.write loc text disk)) := by
  obtain ⟨e, hwrite⟩ | ⟨executable, hloc, -, hwrite⟩ := tree.write_cases disk loc text
  · rw [hwrite]
    exact .refl loc tree
  · rw [hwrite]
    obtain hstore | hstore | ⟨n, -, hstore⟩ := tree.store_cases disk loc executable text
    · rw [hstore]
      exact .refl loc tree
    · rw [hstore]
      exact grows_put_file tree hloc text executable
    · rw [hstore]
      exact grows_put_file tree hloc _ executable

end Changes

/-! ## Paths in a tree that grows -/

theorem walk_eq_ok {tree : FileTree} {names : List String} {start found : Location} {entry : Entry}
    (h : tree.walk start names = .ok (found, entry)) :
    found = Path.follow start names ∧ tree.at? found = some entry := by
  induction names generalizing start with
  | nil =>
    rw [walk] at h
    split at h
    · cases h
      exact ⟨rfl, ‹_›⟩
    · cases h
  | cons name names ih =>
    rw [walk] at h
    split at h
    · cases h
    · cases h
    · exact ih h

theorem walk_cons_of_directory {tree : FileTree} {start : Location} (h : tree.at? start = some .directory)
    (name : String) (names : List String) :
    tree.walk start (name :: names) = tree.walk (if name = ".." then start.dropLast else start ++ [name]) names := by
  rw [walk, h]

theorem at?_of_walk_cons {tree : FileTree} {start : Location} {name : String} {names : List String}
    {result : Location × Entry} (h : tree.walk start (name :: names) = .ok result) :
    tree.at? start = some .directory := by
  rw [walk] at h
  split at h
  · cases h
  · cases h
  · assumption

theorem walk_concat {tree : FileTree} {names : List String} {start dir : Location}
    (h : tree.walk start names = .ok (dir, .directory)) {name : String} (hname : name ≠ "..") {entry : Entry}
    (hentry : tree.at? (dir ++ [name]) = some entry) :
    tree.walk start (names ++ [name]) = .ok (dir ++ [name], entry) := by
  induction names generalizing start with
  | nil =>
    obtain ⟨hdir, hat⟩ := walk_eq_ok h
    rw [Path.follow] at hdir
    subst hdir
    rw [List.nil_append, walk_cons_of_directory hat, if_neg hname, walk, hentry]
  | cons first names ih =>
    have hat := at?_of_walk_cons h
    rw [walk_cons_of_directory hat] at h
    rw [List.cons_append, walk_cons_of_directory hat, ih h]

theorem at?_of_mem_fileNames {tree : FileTree} {dir : Location} {name : String} (h : name ∈ tree.fileNames dir) :
    ∃ entry, tree.at? (dir ++ [name]) = some entry := by
  obtain ⟨⟨key, entry⟩, hmem, hname⟩ := List.mem_filterMap.mp h
  cases entry with
  | directory => cases hname
  | file text executable =>
    dsimp only at hname
    split at hname
    · next hdir =>
      subst hdir
      obtain ⟨front, rfl⟩ := List.getLast?_eq_some_iff.mp hname
      have hsome : (tree.entries.lookup (front ++ [name])).isSome := by
        rw [List.lookup_isSome_iff]
        exact ⟨_, hmem, beq_self_eq_true _⟩
      rw [List.dropLast_concat, at?, if_neg (by simp)]
      exact Option.isSome_iff_exists.mp hsome
    · cases hname

section Walks
variable {loc : Location} {tree tree' : FileTree}

theorem Grows.walk_eq_ok (hgrows : tree.Grows loc tree') (hfile : tree.at? loc ≠ some .directory)
    {names : List String} {start found : Location} {entry : Entry} (hne : found ≠ loc)
    (h : tree.walk start names = .ok (found, entry)) : tree'.walk start names = .ok (found, entry) := by
  induction names generalizing start with
  | nil =>
    obtain ⟨hfound, hentry⟩ := FileTree.walk_eq_ok h
    rw [Path.follow] at hfound
    subst hfound
    rw [walk, hgrows.kept hne hentry]
  | cons name names ih =>
    have hdir := at?_of_walk_cons h
    have hdir' : tree'.at? start = some .directory := hgrows.kept (fun e => hfile (e ▸ hdir)) hdir
    rw [walk_cons_of_directory hdir] at h
    rw [walk_cons_of_directory hdir', ih h]

/-- Everything in a tree stands in a directory. -/
def IsClosed (tree : FileTree) : Prop := ∀ e ∈ tree.entries, tree.at? e.1.dropLast = some .directory

instance (tree : FileTree) : Decidable tree.IsClosed :=
  inferInstanceAs (Decidable (∀ e ∈ tree.entries, tree.at? e.1.dropLast = some .directory))

theorem IsClosed.at?_dropLast (hclosed : tree.IsClosed) {start : Location} {entry : Entry}
    (h : tree.at? start = some entry) : tree.at? start.dropLast = some .directory := by
  by_cases hstart : start = []
  · subst hstart
    rfl
  · have hmem : (start, entry) ∈ tree.entries := by
      unfold at? at h
      rw [if_neg (by simpa using hstart)] at h
      obtain ⟨before, after, he, -⟩ := List.lookup_eq_some_iff.mp h
      rw [he]
      exact List.mem_append_right _ List.mem_cons_self
    exact hclosed _ hmem

theorem IsClosed.at?_append (hclosed : tree.IsClosed) {start : Location} (hnone : tree.at? start = none)
    (names : List String) : tree.at? (start ++ names) = none := by
  induction names generalizing start with
  | nil => rwa [List.append_nil]
  | cons name names ih =>
    have hnext : tree.at? (start ++ [name]) = none := by
      cases hat : tree.at? (start ++ [name]) with
      | none => rfl
      | some entry =>
        have hparent := hclosed.at?_dropLast hat
        rw [List.dropLast_concat, hnone] at hparent
        cases hparent
    have h := ih hnext
    rwa [List.append_assoc, List.singleton_append] at h

theorem IsClosed.fileNames_eq_nil (hclosed : tree.IsClosed) {dir : Location} (hnone : tree.at? dir = none) :
    tree.fileNames dir = [] := by
  rw [fileNames, List.filterMap_eq_nil_iff]
  rintro ⟨key, entry⟩ he
  cases entry with
  | directory => rfl
  | file text executable =>
    refine if_neg ?_
    rintro rfl
    exact absurd (hnone.symm.trans (hclosed _ he)) (by simp)

theorem exists_walk_of_append {start : Location} {front back : List String} {result : Location × Entry}
    (h : tree.walk start (front ++ back) = .ok result) : ∃ found, tree.walk start front = .ok found := by
  induction front generalizing start with
  | nil =>
    cases back with
    | nil => exact ⟨result, h⟩
    | cons name back => exact ⟨_, by rw [walk, at?_of_walk_cons h]⟩
  | cons name front ih =>
    have hdir := at?_of_walk_cons h
    rw [List.cons_append, walk_cons_of_directory hdir] at h
    rw [walk_cons_of_directory hdir]
    exact ih h

/-- Nothing that some names step back from, by a double point, is found in a second tree but not in the first. -/
def NoNewSteps (tree tree' : FileTree) (start : Location) (names : List String) : Prop :=
  ∀ front back, names = front ++ ".." :: back → (∃ found, tree'.walk start front = .ok found) →
    ∃ found, tree.walk start front = .ok found

theorem noNewSteps_of_walk {start : Location} {names : List String} {found : Location × Entry}
    (h : tree.walk start names = .ok found) (tree' : FileTree) : tree.NoNewSteps tree' start names := by
  rintro front back rfl -
  exact exists_walk_of_append h

theorem follow_of_notMem {names : List String} (h : ".." ∉ names) (start : Location) :
    Path.follow start names = start ++ names := by
  induction names generalizing start with
  | nil => rw [Path.follow, List.append_nil]
  | cons name names ih =>
    rw [List.mem_cons, not_or] at h
    rw [Path.follow, if_neg (Ne.symm h.1), ih h.2, List.append_assoc, List.singleton_append]

theorem Grows.at?_directory (hgrows : tree.Grows loc tree') {dir : Location} {entry : Entry}
    (hat : tree.at? dir = some entry) (hdir : tree'.at? dir = some .directory) : tree.at? dir = some .directory := by
  by_cases hloc : dir = loc
  · subst hloc
    exact hgrows.directory hdir
  · exact hat.trans ((hgrows.kept hloc hat).symm.trans hdir)

/-- A path that leads to a directory in the end led to it before, or the directory is new. -/
theorem Grows.walk_directory (hgrows : tree.Grows loc tree') (hclosed : tree.IsClosed) {names : List String}
    {start dir : Location} (hback : tree.NoNewSteps tree' start names)
    (h : tree'.walk start names = .ok (dir, .directory)) :
    tree.walk start names = .ok (dir, .directory) ∨ tree.at? dir = none := by
  induction names generalizing start with
  | nil =>
    obtain ⟨hdir, hentry⟩ := FileTree.walk_eq_ok h
    rw [Path.follow] at hdir
    subst hdir
    cases hat : tree.at? dir with
    | none => exact .inr rfl
    | some entry =>
      refine .inl ?_
      rw [walk, hgrows.at?_directory hat hentry]
  | cons name names ih =>
    cases hat : tree.at? start with
    | none =>
      -- From here on nothing was there, so that no name steps back.
      refine .inr ?_
      have hnames : ".." ∉ name :: names := by
        intro hmem
        obtain ⟨front, back, he⟩ := List.append_of_mem hmem
        obtain ⟨found, hfound⟩ := hback front back he (exists_walk_of_append (he ▸ h))
        cases front with
        | nil => simp [walk, hat] at hfound
        | cons first front => simp [walk, hat] at hfound
      rw [(FileTree.walk_eq_ok h).1, follow_of_notMem hnames]
      exact hclosed.at?_append hat _
    | some entry =>
      have hdir' := at?_of_walk_cons h
      have hdir := hgrows.at?_directory hat hdir'
      rw [walk_cons_of_directory hdir'] at h
      rw [walk_cons_of_directory hdir]
      refine ih (fun front back he hfound => ?_) h
      obtain ⟨found, hfound⟩ := hback (name :: front) back (by rw [he, List.cons_append])
        (by rwa [walk_cons_of_directory hdir'])
      exact ⟨found, by rwa [walk_cons_of_directory hdir] at hfound⟩

end Walks

end ModuleDocs.FileTree
