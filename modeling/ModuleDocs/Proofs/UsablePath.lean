import Mathlib.Data.List.Induction
import ModuleDocs.Proofs.ConfigFile

/-! # Paths that a config file can be written at

A file can be written at a path if no directory is there and its parent is one (`Workspace.IsUsable`,
`FileTree.locate_write_iff`). The check of a config file looks at the path as it is given, seen from the current
directory, and asks only that something is at its parent. What it returns may be another path, below the module, so that
it need not be usable (`checkConfigFile_isUsable_iff`). -/
set_option autoImplicit false

namespace ModuleDocs

namespace FileTree

variable {tree : FileTree}

/-! ## Paths and locations -/

theorem isDirectory_eq_true {cwd : Location} {p : Path} :
    tree.isDirectory cwd p = true ↔ ∃ loc, tree.find cwd p = .ok (loc, .directory) := by
  rw [isDirectory]
  split
  · next loc hfind => exact iff_of_true rfl ⟨loc, hfind⟩
  · next hnone =>
    refine iff_of_false (by decide) ?_
    rintro ⟨loc, hfind⟩
    exact hnone loc hfind

theorem isDirectory_iff_isFile {cwd : Location} {p : Path} (h : tree.exists? cwd p = true) :
    tree.isDirectory cwd p = true ↔ tree.isFile cwd p = false := by
  unfold exists? at h
  unfold isDirectory isFile
  cases hfind : tree.find cwd p with
  | error e =>
    rw [hfind] at h
    cases h
  | ok found =>
    obtain ⟨loc, entry⟩ := found
    cases entry <;> simp

theorem walk_append {names : List String} {start dir : Location} (h : tree.walk start names = .ok (dir, .directory))
    (more : List String) : tree.walk start (names ++ more) = tree.walk dir more := by
  induction names generalizing start with
  | nil =>
    obtain ⟨hdir, -⟩ := walk_eq_ok h
    rw [hdir, Path.follow, List.nil_append]
  | cons name names ih =>
    have hat := at?_of_walk_cons h
    rw [walk_cons_of_directory hat] at h
    rw [List.cons_append, walk_cons_of_directory hat, ih h]

theorem walk_singleton {dir : Location} (h : tree.at? dir = some .directory) (name : String) :
    tree.walk dir [name] = tree.walk (if name = ".." then dir.dropLast else dir ++ [name]) [] :=
  walk_cons_of_directory h name []

/-- In a closed tree, the names of a location lead to what is there. -/
theorem IsClosed.walk_location (hclosed : tree.IsClosed) {loc : Location} (hloc : ".." ∉ loc) {entry : Entry}
    (h : tree.at? loc = some entry) : tree.walk [] loc = .ok (loc, entry) := by
  induction loc using List.reverseRecOn generalizing entry with
  | nil => rw [walk, h]
  | append_singleton dir name ih =>
    rw [List.mem_append, not_or, List.mem_singleton] at hloc
    have hparent := hclosed.at?_dropLast h
    rw [List.dropLast_concat] at hparent
    exact walk_concat (ih hloc.1 hparent) (Ne.symm hloc.2) h

theorem IsClosed.isDirectory_ofLocation (hclosed : tree.IsClosed) {loc : Location} (hloc : ".." ∉ loc)
    (cwd : Location) : tree.isDirectory cwd (Path.ofLocation loc) = true ↔ tree.at? loc = some .directory := by
  rw [isDirectory_eq_true]
  constructor
  · rintro ⟨found, hfind⟩
    obtain ⟨hfound, hat⟩ := walk_eq_ok hfind
    have hsame : found = loc := hfound.trans (follow_of_notMem hloc [])
    exact hsame ▸ hat
  · intro hat
    exact ⟨loc, hclosed.walk_location hloc hat⟩

/-! ## Writing at a path -/

section Write
variable {cwd : Location} {p : Path} {front : List String} {name : String} (hnames : p.names = front ++ [name])
include hnames

theorem find_parent : tree.find cwd p.parent = tree.walk (if p.isAbsolute then [] else cwd) front := by
  have hparent : p.parent.names = front := by rw [Path.parent, hnames, List.dropLast_concat]
  rw [find, hparent]
  rfl

theorem locate_of_parent {dir : Location} (h : tree.find cwd p.parent = .ok (dir, .directory)) :
    tree.locate cwd p = .ok (if name = ".." then dir.dropLast else dir ++ [name]) := by
  rw [locate, hnames, List.getLast?_concat]
  dsimp only
  rw [h]

theorem isDirectory_parent_of_locate {loc : Location} (h : tree.locate cwd p = .ok loc) :
    tree.isDirectory cwd p.parent = true := by
  rw [locate, hnames, List.getLast?_concat] at h
  dsimp only at h
  split at h
  · cases h
  · cases h
  · next dir hfind => exact isDirectory_eq_true.mpr ⟨dir, hfind⟩

theorem isDirectory_of_parent {dir : Location} (h : tree.find cwd p.parent = .ok (dir, .directory)) :
    tree.isDirectory cwd p = true ↔
      tree.at? (if name = ".." then dir.dropLast else dir ++ [name]) = some .directory := by
  rw [find_parent hnames] at h
  have hfind : tree.find cwd p = tree.walk (if name = ".." then dir.dropLast else dir ++ [name]) [] := by
    rw [find, hnames, walk_append h, walk_singleton (walk_eq_ok h).2]
  rw [isDirectory_eq_true, hfind, walk]
  split
  · next entry hat => simp [hat]
  · next hat => simp [hat]

end Write

/-- A text can be written at a path exactly if the path leads to no directory and its parent to one. -/
theorem locate_write_iff (hclosed : tree.IsClosed) {cwd : Location} (hcwd : ".." ∉ cwd)
    (hhere : tree.at? cwd = some .directory) (p : Path) (text : String) :
    (∃ loc tree', tree.locate cwd p = .ok loc ∧ tree.write loc text = .ok tree') ↔
      tree.isDirectory cwd p = false ∧ tree.isDirectory cwd p.parent = true := by
  have hbase : ".." ∉ (if p.isAbsolute then [] else cwd) ∧
      tree.at? (if p.isAbsolute then [] else cwd) = some .directory := by
    split
    · exact ⟨List.not_mem_nil, rfl⟩
    · exact ⟨hcwd, hhere⟩
  obtain hnil | ⟨front, name, hnames⟩ := p.names.eq_nil_or_concat
  · -- A path without names leads to a directory.
    refine iff_of_false ?_ ?_
    · rintro ⟨loc, tree', hloc, hwrite⟩
      rw [locate, hnil] at hloc
      rw [← Except.ok.inj hloc, write, hbase.2] at hwrite
      cases hwrite
    · rintro ⟨hno, -⟩
      have hyes : tree.isDirectory cwd p = true :=
        isDirectory_eq_true.mpr ⟨_, by rw [find, hnil, walk, hbase.2]⟩
      exact absurd (hyes.symm.trans hno) (by decide)
  · rw [List.concat_eq_append] at hnames
    by_cases hparent : tree.isDirectory cwd p.parent = true
    · obtain ⟨dir, hdir⟩ := isDirectory_eq_true.mp hparent
      rw [← Bool.not_eq_true, isDirectory_of_parent hnames hdir, and_iff_left hparent]
      simp only [locate_of_parent hnames hdir, Except.ok.injEq, exists_and_left, exists_eq_left']
      rw [find_parent hnames] at hdir
      obtain ⟨hfollow, hat⟩ := walk_eq_ok hdir
      have hproper : ".." ∉ dir := hfollow ▸ Path.notMem_follow hbase.1 front
      rw [write]
      split
      · next hdirectory => simp [hdirectory]
      · next hfile => simp [hfile]
      · next hnone =>
        have hname : name ≠ ".." := by
          rintro rfl
          rw [if_pos rfl, hclosed.at?_dropLast hat] at hnone
          cases hnone
        rw [if_neg hname] at hnone ⊢
        rw [List.dropLast_concat, hclosed.walk_location hproper hat]
        simp [hnone]
    · refine iff_of_false ?_ fun h => hparent h.2
      rintro ⟨loc, tree', hloc, -⟩
      exact hparent (isDirectory_parent_of_locate hnames hloc)

end FileTree

/-! ## Workspaces -/

/-- A workspace as it is found: all that is in it stands in a directory, and so does the run. -/
structure Workspace.IsSound (ws : Workspace) : Prop where
  closed : ws.files.IsClosed
  proper : IsProper ws.cwd
  here : ws.files.at? ws.cwd = some .directory

/-- A file can be written at the path: no directory is there, and its parent is one. -/
def Workspace.IsUsable (ws : Workspace) (p : Path) : Prop := ws.isDirectory p = false ∧ ws.isDirectory p.parent = true

theorem IsProper.notMem {loc : Location} (h : IsProper loc) : ".." ∉ loc := fun hmem => (h ".." hmem).2 rfl

section Dump
variable {ws : Workspace} {s : Settings}

theorem Settings.dump_of_isChecked (hs : s.IsChecked) (hdump : s.dumpConfig = true)
    (hkept : s.dumpOverwrite = true ∨ ws.exists? (Path.ofText s.configFile) = false) {ws' : Workspace} :
    s.dump ws = .ok ws' ↔ ∃ loc tree', ws.files.locate ws.cwd (Path.ofText s.configFile) = .ok loc ∧
      ws.files.write loc s.stored.toYaml = .ok tree' ∧ ws' = { ws with files := tree' } := by
  have hgo : ¬ (ws.exists? (Path.ofText s.configFile) && !s.dumpOverwrite) = true := by
    obtain h | h := hkept <;> simp [h]
  rw [Settings.dump, s.ensure_of_isChecked hs, hdump]
  simp only [hgo, Bool.not_true, Bool.false_eq_true, if_false]
  change (ws.files.locate ws.cwd (Path.ofText s.configFile) >>= fun loc =>
    (ws.files.write loc s.stored.toYaml).mapError (·.error) >>= fun tree' => pure { ws with files := tree' }) = _ ↔ _
  simp only [bind_eq_ok, mapError_eq_ok, pure_eq_ok, exists_and_left, eq_comm (a := ws')]

/-- Settings can be dumped, where the file is not to be kept, exactly if its path is usable. -/
theorem Workspace.IsSound.isUsable_iff_dump (hws : ws.IsSound) (configFile : String) :
    ws.IsUsable (Path.ofText configFile) ↔
      ∀ s : Settings, s.IsChecked → s.configFile = configFile → s.dumpConfig = true →
        s.dumpOverwrite = true ∨ ws.exists? (Path.ofText configFile) = false → ∃ ws', s.dump ws = .ok ws' := by
  have hwrite := ws.files.locate_write_iff hws.closed hws.proper.notMem hws.here (Path.ofText configFile)
  constructor
  · rintro husable s hs rfl hdump hkept
    obtain ⟨loc, tree', hloc, hwritten⟩ := (hwrite s.stored.toYaml).mpr husable
    exact ⟨_, (Settings.dump_of_isChecked hs hdump hkept).mpr ⟨loc, tree', hloc, hwritten, rfl⟩⟩
  · intro h
    obtain ⟨ws', hdump⟩ := h { configFile, dumpConfig := true, dumpOverwrite := true } rfl rfl rfl (.inl rfl)
    obtain ⟨loc, tree', hloc, hwritten, -⟩ := (Settings.dump_of_isChecked (by exact rfl) rfl (.inl rfl)).mp hdump
    exact (hwrite _).mp ⟨loc, tree', hloc, hwritten⟩

end Dump

/-! ## What the check returns -/

section Checked
variable {ws : Workspace} {module value configFile : String}
  (h : checkConfigFile ws (Path.ofText module) value = .ok configFile)
include h

theorem isUsable_literal_iff (hliteral : ((Path.ofText value).isAbsolute || isDotted value) = true) :
    ws.IsUsable (Path.ofText configFile) ↔ ws.isFile (Path.ofText value).parent = false := by
  obtain ⟨hno, hparent, hconfig⟩ := checkConfigFile_eq_ok.mp h
  rw [if_pos hliteral] at hconfig
  rw [← hconfig, Workspace.IsUsable, and_iff_right hno]
  exact FileTree.isDirectory_iff_isFile hparent

theorem isUsable_below_iff (hws : ws.IsSound)
    (hliteral : ¬ ((Path.ofText value).isAbsolute || isDotted value) = true) :
    ws.IsUsable (Path.ofText configFile) ↔
      ws.files.at? (ws.resolve ((Path.ofText module).join (Path.ofText value))) ≠ some .directory ∧
        ws.files.at? (ws.resolve ((Path.ofText module).join (Path.ofText value))).dropLast = some .directory := by
  obtain ⟨-, -, hconfig⟩ := checkConfigFile_eq_ok.mp h
  rw [if_neg hliteral] at hconfig
  rw [Bool.or_eq_true, not_or, Bool.not_eq_true, Bool.not_eq_true] at hliteral
  have hproper : IsProper (ws.resolve ((Path.ofText module).join (Path.ofText value))) := by
    rw [Workspace.resolve, resolve_join hliteral.1]
    exact isProper_follow (isProper_resolve hws.proper fun name hname => Path.isPathName_of_mem_ofText hname)
      fun name hname => Path.isPathName_of_mem_ofText hname
  generalize ws.resolve ((Path.ofText module).join (Path.ofText value)) = loc at hconfig hproper ⊢
  have habove : ".." ∉ loc.dropLast := fun hmem => hproper.notMem (List.dropLast_subset loc hmem)
  have hup : (Path.ofLocation loc).parent = Path.ofLocation loc.dropLast := rfl
  rw [← hconfig, Path.ofText_text_ofLocation hproper, Workspace.IsUsable, hup, ← Bool.not_eq_true]
  exact and_congr (not_congr (hws.closed.isDirectory_ofLocation hproper.notMem ws.cwd))
    (hws.closed.isDirectory_ofLocation habove ws.cwd)

end Checked

/-- The path that the check of a config file returns is usable, and settings can be dumped there, exactly if it is the
path as it was given and no file is at its parent, or if below the module, where it was not looked, there is a directory
for the file and no directory in its place. -/
theorem checkConfigFile_isUsable_iff {ws : Workspace} (hws : ws.IsSound) {module value configFile : String}
    (h : checkConfigFile ws (Path.ofText module) value = .ok configFile) :
    (ws.IsUsable (Path.ofText configFile) ↔
      if (Path.ofText value).isAbsolute || isDotted value then ws.isFile (Path.ofText value).parent = false
      else ws.files.at? (ws.resolve ((Path.ofText module).join (Path.ofText value))) ≠ some .directory ∧
        ws.files.at? (ws.resolve ((Path.ofText module).join (Path.ofText value))).dropLast = some .directory) ∧
      (ws.IsUsable (Path.ofText configFile) ↔
        ∀ s : Settings, s.IsChecked → s.configFile = configFile → s.dumpConfig = true →
          s.dumpOverwrite = true ∨ ws.exists? (Path.ofText configFile) = false → ∃ ws', s.dump ws = .ok ws') := by
  refine ⟨?_, hws.isUsable_iff_dump configFile⟩
  split
  · next hliteral => exact isUsable_literal_iff h hliteral
  · next hliteral => exact isUsable_below_iff h hws hliteral

theorem isSound_moduleBelow : moduleBelow.IsSound := ⟨by decide, by decide, by decide⟩

theorem checkConfigFile_isUsable_below :
    moduleBelow.IsSound ∧
      checkConfigFile moduleBelow (Path.ofText "m") "new.yml" = .ok "/w/m/new.yml" ∧
      moduleBelow.IsUsable (Path.ofText "/w/m/new.yml") ∧
      ∃ ws', ({ configFile := "/w/m/new.yml", dumpConfig := true } : Settings).dump moduleBelow = .ok ws' := by
  have hcheck : checkConfigFile moduleBelow (Path.ofText "m") "new.yml" = .ok "/w/m/new.yml" := by rfl
  obtain ⟨hplace, hdump⟩ := checkConfigFile_isUsable_iff isSound_moduleBelow hcheck
  have husable := hplace.mpr (by decide)
  exact ⟨isSound_moduleBelow, hcheck, husable, hdump.mp husable _ rfl rfl rfl (.inr (by rfl))⟩

/-- A directory with a module below it, in which a directory has the name of the config file. -/
def configIsTaken : Workspace where
  cwd := ["w"]
  files := ⟨[(["w"], .directory), (["w", "m"], .directory), (["w", "m", defaultConfigFile], .directory)]⟩

/-- The check accepts a path at which a directory is, and dumping fails. -/
theorem checkConfigFile_accepts_directory :
    configIsTaken.IsSound ∧
      checkConfigFile configIsTaken (Path.ofText "m") defaultConfigFile = .ok "/w/m/.tofu-docs.yml" ∧
      configIsTaken.isDirectory (Path.ofText "/w/m/.tofu-docs.yml") = true ∧
      ({ configFile := "/w/m/.tofu-docs.yml", dumpConfig := true, dumpOverwrite := true } : Settings).dump
        configIsTaken = .error .isDirectory :=
  ⟨⟨by decide, by decide, by decide⟩, by rfl, by rfl, by rfl⟩

end ModuleDocs
