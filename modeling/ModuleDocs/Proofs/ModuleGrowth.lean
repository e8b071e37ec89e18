import ModuleDocs.Document
import ModuleDocs.Proofs.Growth
import ModuleDocs.Proofs.Success

/-! # Modules in a tree that grows

Where a file is set that is no source of the module, and directories are made for it, the module stays as it was
(`moduleDocument_of_grows`), unless its path steps back from a directory that is new. -/
set_option autoImplicit false

namespace ModuleDocs

/-! ## Workspaces -/

/-- Nothing that a path steps back from, by a double point, is found in a second workspace but not in the first. -/
def Workspace.NoNewSteps (ws ws' : Workspace) (p : Path) : Prop :=
  ws.files.NoNewSteps ws'.files (if p.isAbsolute then [] else ws.cwd) p.names

/-- One workspace after another in which a file was set and directories were made for it. -/
structure Workspace.Grows (loc : Location) (ws ws' : Workspace) : Prop where
  cwd : ws'.cwd = ws.cwd
  files : ws.files.Grows loc ws'.files

/-! ## Files and documents of modules -/

section Module
variable {ws ws' : Workspace} {loc : Location} {settings : Settings}

theorem Workspace.Grows.read_eq (hgrows : ws.Grows loc ws') (hfile : ws.files.at? loc ≠ some .directory) {p : Path}
    {found : Location} {entry : Entry} (hne : found ≠ loc) (h : ws.files.find ws.cwd p = .ok (found, entry)) :
    ws'.read p = ws.read p := by
  have h' : ws'.files.find ws'.cwd p = .ok (found, entry) := by
    rw [hgrows.cwd]
    exact hgrows.files.walk_eq_ok hfile hne h
  unfold Workspace.read FileTree.read
  rw [h, h']

/-- The names by which files belong to a module. -/
def isModuleFile (format : FormatSettings) (name : String) : Bool :=
  finishesWith name ".tf" && !(format.skipAuto && beginsWith name "auto.")

theorem moduleFiles_of_find {dir : Location} (h : ws.files.find ws.cwd settings.modulePath = .ok (dir, .directory)) :
    Hcl.moduleFiles ws settings =
      (((ws.files.fileNames dir).filter (isModuleFile settings.format)).mergeSort (· ≤ ·)).map fun name =>
        settings.modulePath.join ⟨.here, [name]⟩ := by
  unfold Hcl.moduleFiles
  rw [h]
  rfl

theorem moduleFiles_of_not_find
    (h : ∀ dir, ws.files.find ws.cwd settings.modulePath ≠ .ok (dir, .directory)) :
    Hcl.moduleFiles ws settings = [] := by
  unfold Hcl.moduleFiles
  split
  · next dir hdir => exact absurd hdir (h dir)
  · rfl

/-- No file in the directory of the module comes to belong to the module, or stops to. -/
theorem moduleFiles_of_grows (hgrows : ws.Grows loc ws') (hfile : ws.files.at? loc ≠ some .directory)
    (hclosed : ws.files.IsClosed) (hback : ws.NoNewSteps ws' settings.modulePath)
    (hsource : ∀ name, loc = ws.resolve settings.modulePath ++ [name] → finishesWith name ".tf" = false) :
    Hcl.moduleFiles ws' settings = Hcl.moduleFiles ws settings := by
  have hnames : ∀ dir, dir = ws.resolve settings.modulePath →
      (ws'.files.fileNames dir).filter (isModuleFile settings.format) =
        (ws.files.fileNames dir).filter (isModuleFile settings.format) := by
    intro dir hdir
    refine hgrows.files.names fun name hname => ?_
    rw [isModuleFile, hsource name (hdir ▸ hname), Bool.false_and]
  have hresolve : ∀ dir, ws'.files.find ws'.cwd settings.modulePath = .ok (dir, .directory) →
      dir = ws.resolve settings.modulePath := by
    intro dir h
    rw [hgrows.cwd] at h
    exact (FileTree.walk_eq_ok h).1
  by_cases hfind : ∃ dir, ws.files.find ws.cwd settings.modulePath = .ok (dir, .directory)
  · obtain ⟨dir, hdir⟩ := hfind
    have hne : dir ≠ loc := by
      rintro rfl
      exact hfile (FileTree.walk_eq_ok hdir).2
    have hdir' : ws'.files.find ws'.cwd settings.modulePath = .ok (dir, .directory) := by
      rw [hgrows.cwd]
      exact hgrows.files.walk_eq_ok hfile hne hdir
    rw [moduleFiles_of_find hdir, moduleFiles_of_find hdir', hnames dir (hresolve dir hdir')]
  · rw [not_exists] at hfind
    rw [moduleFiles_of_not_find hfind]
    by_cases hfind' : ∃ dir, ws'.files.find ws'.cwd settings.modulePath = .ok (dir, .directory)
    · -- The directory of the module was made on the way to the target, and has nothing else in it.
      obtain ⟨dir, hdir'⟩ := hfind'
      have hdir := hdir'
      rw [hgrows.cwd] at hdir
      rcases hgrows.files.walk_directory hclosed hback hdir with h | hnone
      · exact absurd h (hfind dir)
      · rw [moduleFiles_of_find hdir', hnames dir (hresolve dir hdir'), hclosed.fileNames_eq_nil hnone,
          List.filter_nil, List.mergeSort_nil, List.map_nil]
    · rw [moduleFiles_of_not_find (not_exists.mp hfind')]

theorem read_moduleFile (hgrows : ws.Grows loc ws') (hfile : ws.files.at? loc ≠ some .directory)
    (hsource : ∀ name, loc = ws.resolve settings.modulePath ++ [name] → finishesWith name ".tf" = false)
    {file : Path} (hmem : file ∈ Hcl.moduleFiles ws settings) : ws'.read file = ws.read file := by
  by_cases hfind : ∃ dir, ws.files.find ws.cwd settings.modulePath = .ok (dir, .directory)
  · obtain ⟨dir, hdir⟩ := hfind
    rw [moduleFiles_of_find hdir, List.mem_map] at hmem
    obtain ⟨name, hname, rfl⟩ := hmem
    rw [List.mem_mergeSort, List.mem_filter, isModuleFile, Bool.and_eq_true] at hname
    obtain ⟨hname, htf, -⟩ := hname
    have hdots : name ≠ ".." := by
      rintro rfl
      exact absurd htf (by decide +kernel)
    have hne : dir ++ [name] ≠ loc := by
      intro e
      have hresolve : dir = ws.resolve settings.modulePath := (FileTree.walk_eq_ok hdir).1
      rw [hsource name (hresolve ▸ e.symm)] at htf
      cases htf
    obtain ⟨entry, hentry⟩ := FileTree.at?_of_mem_fileNames hname
    exact hgrows.read_eq hfile hne (FileTree.walk_concat hdir hdots hentry)
  · rw [moduleFiles_of_not_find (not_exists.mp hfind)] at hmem
    cases hmem

/-- The document on the module of a workspace. -/
def moduleDocument (ws : Workspace) (parse : Hcl.Parser) (settings : Settings) : Except Error String :=
  (Hcl.loadModule ws parse settings).bind (formatModule settings)

theorem moduleDocument_of_grows (hgrows : ws.Grows loc ws') (hfile : ws.files.at? loc ≠ some .directory)
    (hclosed : ws.files.IsClosed) (hback : ws.NoNewSteps ws' settings.modulePath)
    (hsource : ∀ name, loc = ws.resolve settings.modulePath ++ [name] → finishesWith name ".tf" = false)
    (parse : Hcl.Parser) : moduleDocument ws' parse settings = moduleDocument ws parse settings := by
  have hload : Hcl.loadFiles ws' parse settings (Hcl.moduleFiles ws settings) =
      Hcl.loadFiles ws parse settings (Hcl.moduleFiles ws settings) := by
    unfold Hcl.loadFiles
    rw [mapM_congr fun file hmem => ?_]
    unfold Hcl.loadFile
    rw [read_moduleFile hgrows hfile hsource hmem]
  unfold moduleDocument Hcl.loadModule
  rw [moduleFiles_of_grows hgrows hfile hclosed hback hsource]
  dsimp only
  rw [hload]

end Module

end ModuleDocs
