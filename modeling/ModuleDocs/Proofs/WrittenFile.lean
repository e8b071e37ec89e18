import ModuleDocs.Proofs.Growth
import ModuleDocs.Proofs.Loading

/-! # A file that is written

Writing a file replaces its text and keeps its mode (`FileTree.Writes`). Every path that led to something leads to it
after that (`Writes.walk_eq_ok`), so programs that could be run can be run still (`Writes.git_checked`). A
path whose parent is there leads to the file that was written at its location (`Writes.walk_written`). -/
set_option autoImplicit false

namespace ModuleDocs

namespace FileTree

/-! ## Writing -/

/-- One tree after another, in which a file was written. -/
structure Writes (tree tree' : FileTree) (loc : Location) (text : String) (executable : Bool) : Prop where
  put : tree' = tree.put loc (.file text executable)
  ne_nil : loc ≠ []
  not_directory : tree.at? loc ≠ some .directory
  mode : ∀ old mode, tree.at? loc = some (.file old mode) → mode = executable
  parent : tree.at? loc = none → ∃ found, tree.walk [] loc.dropLast = .ok (found, .directory)

section Writes
variable {tree tree' : FileTree} {loc : Location} {text : String} {executable : Bool}

theorem exists_writes (h : tree.write loc text = .ok tree') : ∃ executable, tree.Writes tree' loc text executable := by
  have hne : loc ≠ [] := by
    rintro rfl
    cases h
  unfold write at h
  split at h
  · cases h
  · next old mode hat =>
    refine ⟨mode, (Except.ok.inj h).symm, hne, by simp [hat], fun _ _ hold => ?_, by simp [hat]⟩
    rw [hat] at hold
    cases hold
    rfl
  · next hat =>
    split at h
    · cases h
    · cases h
    · next found hfound =>
      exact ⟨false, (Except.ok.inj h).symm, hne, by simp [hat], by simp [hat], fun _ => ⟨_, hfound⟩⟩

theorem Writes.at?_eq (h : tree.Writes tree' loc text executable) (other : Location) :
    tree'.at? other = if other = loc then some (.file text executable) else tree.at? other := by
  rw [h.put, at?_put tree h.ne_nil]

theorem Writes.walk_eq_ok (h : tree.Writes tree' loc text executable) {names : List String} {start found : Location}
    {entry : Entry} (hwalk : tree.walk start names = .ok (found, entry)) :
    tree'.walk start names = .ok (found, if found = loc then .file text executable else entry) := by
  induction names generalizing start with
  | nil =>
    obtain ⟨hfound, hentry⟩ := FileTree.walk_eq_ok hwalk
    rw [Path.follow] at hfound
    subst hfound
    rw [walk, h.at?_eq, hentry]
    by_cases hloc : found = loc
    · rw [if_pos hloc, if_pos hloc]
    · rw [if_neg hloc, if_neg hloc]
  | cons name names ih =>
    have hdir := at?_of_walk_cons hwalk
    have hdir' : tree'.at? start = some .directory := by
      rw [h.at?_eq, if_neg, hdir]
      rintro rfl
      exact h.not_directory hdir
    rw [walk_cons_of_directory hdir] at hwalk
    rw [walk_cons_of_directory hdir', ih hwalk]

variable {cwd : Location} {p : Path}

theorem Writes.exists?_eq_true (h : tree.Writes tree' loc text executable) (hp : tree.exists? cwd p = true) :
    tree'.exists? cwd p = true := by
  unfold exists? at hp ⊢
  cases hfind : tree.find cwd p with
  | error e =>
    rw [hfind] at hp
    cases hp
  | ok result =>
    have hfind' : tree'.find cwd p = _ := h.walk_eq_ok hfind
    rw [hfind']
    rfl

theorem Writes.isFile_eq_true (h : tree.Writes tree' loc text executable) (hp : tree.isFile cwd p = true) :
    tree'.isFile cwd p = true := by
  unfold isFile at hp ⊢
  split at hp
  · next found old mode hfind =>
    have hfind' : tree'.find cwd p = _ := h.walk_eq_ok hfind
    rw [hfind']
    by_cases hloc : found = loc
    · rw [if_pos hloc]
    · rw [if_neg hloc]
  · cases hp

theorem Writes.isExecutable_eq_true (h : tree.Writes tree' loc text executable)
    (hp : tree.isExecutable cwd p = true) : tree'.isExecutable cwd p = true := by
  unfold isExecutable at hp ⊢
  split at hp
  · next found old mode hfind =>
    subst hp
    have hfind' : tree'.find cwd p = _ := h.walk_eq_ok hfind
    rw [hfind']
    by_cases hfound : found = loc
    · subst hfound
      rw [if_pos rfl, h.mode old true (FileTree.walk_eq_ok hfind).2]
    · rw [if_neg hfound]
  · cases hp

/-! ## The written file -/

/-- What a path leads to in front of its last name, if something was written at its location: a directory. -/
theorem Writes.parent_eq_directory (h : tree.Writes tree' loc text executable) (hclosed : tree.IsClosed)
    {dir : Location} (hdir : ".." ∉ dir) {name : String} (hloc : loc = dir ++ [name]) {entry : Entry}
    (hentry : tree.at? dir = some entry) : entry = .directory := by
  have hdropLast : loc.dropLast = dir := by rw [hloc, List.dropLast_concat]
  have hat : tree.at? dir = some .directory := by
    cases hold : tree.at? loc with
    | some old => exact hdropLast ▸ hclosed.at?_dropLast hold
    | none =>
      obtain ⟨found, hwalk⟩ := h.parent hold
      rw [hdropLast] at hwalk
      obtain ⟨hfound, hat⟩ := FileTree.walk_eq_ok hwalk
      rw [follow_of_notMem hdir, List.nil_append] at hfound
      exact hfound ▸ hat
  exact Option.some.inj (hentry.symm.trans hat)

/-- A path whose parent was there leads to the file that was written at its location. -/
theorem Writes.walk_written (h : tree.Writes tree' loc text executable) (hclosed : tree.IsClosed)
    {start : Location} (hstart : ".." ∉ start) {names : List String} (hloc : Path.follow start names = loc)
    {parent : Location × Entry} (hparent : tree.walk start names.dropLast = .ok parent) :
    tree'.walk start names = .ok (loc, .file text executable) := by
  obtain rfl | ⟨front, last, rfl⟩ := names.eq_nil_or_concat
  · rw [Path.follow] at hloc
    rw [walk, h.at?_eq, if_pos hloc, hloc]
  · obtain ⟨dir, entry⟩ := parent
    rw [List.concat_eq_append, List.dropLast_concat] at hparent
    obtain ⟨hdir, hentry⟩ := FileTree.walk_eq_ok hparent
    rw [List.concat_eq_append, Path.follow_append, ← hdir, Path.follow, Path.follow] at hloc
    by_cases hlast : last = ".."
    · -- stepping back leads to a directory, which cannot have been written
      rw [if_pos hlast] at hloc
      exact absurd (hloc ▸ hclosed.at?_dropLast hentry) h.not_directory
    · rw [if_neg hlast] at hloc
      have hnotMem : ".." ∉ dir := hdir ▸ Path.notMem_follow hstart front
      obtain rfl := h.parent_eq_directory hclosed hnotMem hloc.symm hentry
      have hne : dir ≠ loc := by
        rw [← hloc]
        simp
      have hparent' := h.walk_eq_ok hparent
      rw [if_neg hne] at hparent'
      have hwritten : tree'.at? (dir ++ [last]) = some (.file text executable) := by
        rw [h.at?_eq, if_pos hloc]
      rw [List.concat_eq_append, walk_concat hparent' hlast hwritten, hloc]

end Writes

end FileTree

/-! ## Checks after writing -/

section Checks
variable {ws : Workspace} {tree' : FileTree} {loc : Location} {text : String} {executable : Bool}
  (h : ws.files.Writes tree' loc text executable)
include h

theorem FileTree.Writes.runs_eq_true {command : String} (hruns : ws.runs command = true) :
    ({ ws with files := tree' } : Workspace).runs command = true := by
  unfold Workspace.runs at hruns ⊢
  split at hruns
  · next hslash =>
    rw [if_pos hslash]
    exact h.isExecutable_eq_true hruns
  · next hslash =>
    rw [if_neg hslash, Bool.and_eq_true, List.any_eq_true]
    rw [Bool.and_eq_true, List.any_eq_true] at hruns
    obtain ⟨hne, dir, hdir, hfound⟩ := hruns
    exact ⟨hne, dir, hdir, h.isExecutable_eq_true hfound⟩

theorem FileTree.Writes.git_checked {value git : String}
    (hgit : checkGitExecutable ws value = .ok git) :
    checkGitExecutable { ws with files := tree' } value = .ok git := by
  obtain ⟨hexists, hfile, hruns, rfl⟩ := checkGitExecutable_eq_ok.mp hgit
  exact checkGitExecutable_eq_ok.mpr
    ⟨h.exists?_eq_true hexists, h.isFile_eq_true hfile, h.runs_eq_true hruns, rfl⟩

theorem FileTree.Writes.config_checked {modulePath : Path} {value configFile : String}
    (hvalue : tree'.find ws.cwd (Path.ofText value) = .ok (loc, .file text executable))
    (hcheck : checkConfigFile ws modulePath value = .ok configFile) :
    checkConfigFile { ws with files := tree' } modulePath value = .ok configFile := by
  obtain ⟨-, hparent, hconfig⟩ := checkConfigFile_eq_ok.mp hcheck
  refine checkConfigFile_eq_ok.mpr ⟨?_, h.exists?_eq_true hparent, hconfig⟩
  rw [Workspace.isDirectory, FileTree.isDirectory, hvalue]

end Checks

/-! ## Dumping -/

/-- A path is located where its names lead, without a look at what is there. -/
theorem FileTree.eq_resolve_of_locate {tree : FileTree} {cwd loc : Location} {p : Path}
    (h : tree.locate cwd p = .ok loc) : loc = p.resolve cwd := by
  rw [Path.resolve]
  unfold locate at h
  split at h
  · next hnone =>
    rw [List.getLast?_eq_none_iff.mp hnone, Path.follow]
    exact (Except.ok.inj h).symm
  · next name hname =>
    obtain ⟨front, hfront⟩ := List.getLast?_eq_some_iff.mp hname
    split at h
    · cases h
    · cases h
    · next dir hfind =>
      have hparent : p.parent.names = front := by rw [Path.parent, hfront, List.dropLast_concat]
      obtain ⟨hdir, -⟩ := walk_eq_ok hfind
      rw [hparent] at hdir
      rw [hfront, Path.follow_append, Path.follow, Path.follow, ← Except.ok.inj h, hdir]
      rfl

theorem Settings.dump_eq_ok {s : Settings} (hdump : s.dumpConfig = true) {ws ws' : Workspace}
    (h : s.dump ws = .ok ws') :
    ∃ tree' executable, ws.files.Writes tree' (ws.resolve (Path.ofText s.configFile)) s.stored.toYaml executable ∧
      ws' = { ws with files := tree' } := by
  obtain ⟨_, -, h⟩ := bind_eq_ok.mp h
  dsimp only at h
  rw [hdump, if_neg (by decide)] at h
  split at h
  · cases h
  · obtain ⟨loc, hloc, h⟩ := bind_eq_ok.mp h
    obtain ⟨tree', hwrite, h⟩ := bind_eq_ok.mp h
    rw [FileTree.eq_resolve_of_locate hloc] at hwrite
    obtain ⟨executable, hwrites⟩ := FileTree.exists_writes (mapError_eq_ok.mp hwrite)
    exact ⟨tree', executable, hwrites, (pure_eq_ok.mp h).symm⟩

end ModuleDocs
