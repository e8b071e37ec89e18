import ModuleDocs.Proofs.Success
import ModuleDocs.Settings.Config

/-! # Loading settings

Settings are loaded in steps (`Settings.load_eq_ok`): the config file is located by what is given, what it holds is put
below what is given (`entry?_entriesOver`), the fields are read one by one (`Settings.ofEntries_eq_ok`), and the paths
among them are checked. -/
set_option autoImplicit false

namespace ModuleDocs

open Yaml

/-! ## Entries -/

theorem Yaml.Datum.isSame_str {d : Datum} {name : String} : d.isSame (.str name) = true ↔ d = .str name := by
  cases d <;> simp [Datum.isSame]

theorem Yaml.Datum.entry?_cons (key d : Datum) (name : String) (entries : List (Datum × Datum)) :
    Datum.entry? name ((key, d) :: entries) =
      if key.isSame (.str name) then some d else Datum.entry? name entries := by
  unfold Datum.entry?
  rw [List.find?_cons]
  split <;> simp [*]

theorem Yaml.Datum.entry?_setEntry (key name : String) (d : Datum) (entries : List (Datum × Datum)) :
    Datum.entry? name (Datum.setEntry (.str key) d entries) =
      if key = name then some d else Datum.entry? name entries := by
  induction entries with
  | nil =>
    rw [Datum.setEntry, Datum.entry?_cons]
    simp [Datum.isSame]
  | cons e entries ih =>
    rw [Datum.setEntry]
    split
    · next hkey =>
      rw [Datum.entry?_cons, Datum.entry?_cons, Datum.isSame_str.mp hkey]
      split <;> simp_all [Datum.isSame]
    · next hkey =>
      rw [Datum.entry?_cons, Datum.entry?_cons, ih]
      split
      · next hname =>
        rw [Datum.isSame_str.mp hname] at hkey
        rw [if_neg]
        rintro rfl
        exact hkey (by simp [Datum.isSame])
      · rfl

theorem entry?_entriesOver {given : List (String × Value)} (hgiven : (given.map Prod.fst).Nodup)
    (low : List (Datum × Datum)) (name : String) :
    Datum.entry? name (entriesOver given low) =
      match given.lookup name with
      | some v => some ((Datum.entry? name low).elim (.ofValue v) v.over)
      | none => Datum.entry? name low := by
  induction given generalizing low with
  | nil => rfl
  | cons e given ih =>
    obtain ⟨key, v⟩ := e
    rw [List.map_cons, List.nodup_cons] at hgiven
    rw [entriesOver, ih hgiven.2, Datum.entry?_setEntry, List.lookup_cons]
    by_cases hkey : key = name
    · subst hkey
      have hlater : given.lookup key = none := by
        rw [List.lookup_eq_none_iff]
        rintro ⟨other, w⟩ hother
        have hne : key ≠ other := fun h => hgiven.1 (List.mem_map.mpr ⟨_, hother, h.symm⟩)
        exact bne_iff_ne.mpr hne
      simp only [hlater, if_pos, beq_self_eq_true]
      cases Datum.entry? key low <;> rfl
    · rw [if_neg hkey, beq_false_of_ne (Ne.symm hkey)]

/-! ## Fields -/

open Yaml.Typed in
/-- The settings have what some entries hold, and the defaults for the rest. -/
structure Settings.ReadFrom (entries : List (Datum × Datum)) (s : Settings) : Prop where
  dumpConfig : field entries "dump_config" bool false = .ok s.dumpConfig
  dumpOverwrite : field entries "dump_overwrite" bool false = .ok s.dumpOverwrite
  modulePath : field entries "module_path" (fun d => Path.ofText <$> text d) {} = .ok s.modulePath
  configFile : field entries "config_file" text defaultConfigFile = .ok s.configFile
  debug : field entries "debug" bool false = .ok s.debug
  changedExitCode : field entries "changed_exit_code" int 0 = .ok s.changedExitCode
  unchangedExitCode : field entries "unchanged_exit_code" int 0 = .ok s.unchangedExitCode
  changedGitAdd : field entries "changed_git_add" bool false = .ok s.changedGitAdd
  gitExecutable : field entries "git_executable" text "/usr/bin/git" = .ok s.gitExecutable
  target : field entries "target" text defaultTarget = .ok s.target
  targetConfig : field entries "target_config" TargetSettings.ofDatum {} = .ok s.targetConfig
  format : field entries "format" FormatSettings.ofDatum {} = .ok s.format
  replace : field entries "replace" (list ReplaceRule.ofDatum) defaultRules = .ok s.replace
  faults : s.faults = []
  forced : s.forced = []

theorem Settings.ofEntries_eq_ok {named : List (String × Datum)} {s : Settings} :
    Settings.ofEntries named = .ok s ↔
      (∀ e ∈ named, e.1 ∈ Settings.fieldNames) ∧ s.ReadFrom (named.map fun e => (.str e.1, e.2)) := by
  have hnames : (named.any fun e => !Settings.fieldNames.contains e.1) = false ↔
      ∀ e ∈ named, e.1 ∈ Settings.fieldNames := by
    simp
  rw [← hnames]
  unfold Settings.ofEntries
  cases named.any fun e => !Settings.fieldNames.contains e.1 with
  | true => simp
  | false =>
    simp only [Bool.false_eq_true, if_false, bind_eq_ok, pure_eq_ok, true_and]
    constructor
    · rintro ⟨_, h1, _, h2, _, h3, _, h4, _, h5, _, h6, _, h7, _, h8, _, h9, _, h10, _, h11, _, h12, _, h13, rfl⟩
      exact ⟨h1, h2, h3, h4, h5, h6, h7, h8, h9, h10, h11, h12, h13, rfl, rfl⟩
    · intro h
      obtain ⟨h1, h2, h3, h4, h5, h6, h7, h8, h9, h10, h11, h12, h13, hfaults, hforced⟩ := h
      refine ⟨_, h1, _, h2, _, h3, _, h4, _, h5, _, h6, _, h7, _, h8, _, h9, _, h10, _, h11, _, h12, _, h13, ?_⟩
      rw [← hfaults, ← hforced]

theorem namedEntries_eq_ok {entries : List (Datum × Datum)} {named : List (String × Datum)} :
    namedEntries entries = .ok named ↔ entries = named.map fun e => (.str e.1, e.2) := by
  unfold namedEntries
  rw [mapM_eq_ok]
  constructor
  · intro h
    induction h with
    | nil => rfl
    | @cons e n entries named he _ ih =>
      obtain ⟨key, d⟩ := e
      cases key <;> cases he
      rw [List.map_cons, ih]
  · rintro rfl
    rw [List.forall₂_map_left_iff, List.forall₂_same]
    exact fun _ _ => rfl

theorem exists_named {names : List String} {entries : List (Datum × Datum)}
    (h : ∀ e ∈ entries, ∃ name ∈ names, e.1 = .str name) :
    ∃ named : List (String × Datum), entries = (named.map fun e => (.str e.1, e.2)) ∧ ∀ e ∈ named, e.1 ∈ names := by
  induction entries with
  | nil => exact ⟨[], rfl, by simp⟩
  | cons e entries ih =>
    rw [List.forall_mem_cons] at h
    obtain ⟨⟨name, hname, hkey⟩, hrest⟩ := h
    obtain ⟨named, hnamed, hnames⟩ := ih hrest
    refine ⟨(name, e.2) :: named, ?_, List.forall_mem_cons.mpr ⟨hname, hnames⟩⟩
    rw [List.map_cons, ← hnamed, ← hkey]

/-! ## Steps -/

namespace Settings

/-- The text of the path at which the config file is looked for. -/
def configText (given : List (String × Value)) : Except Error String :=
  match given.lookup "config_file" with
  | none => pure defaultConfigFile
  | some (.str s) => pure s
  | some _ => .error .unusableSetting

/-- What the config file at a path holds, if there is one. -/
def storedEntries (ws : Workspace) (path : Path) : Except Error (List (Datum × Datum)) := do
  entriesOf (← if ws.isFile path then readConfig ws path else pure (.map []))

/-- The settings of what is given and what a config file holds, before the paths in them are checked. -/
def unchecked (given : List (String × Value)) (stored : List (Datum × Datum)) : Except Error Settings := do
  Settings.ofEntries (← namedEntries (entriesOver given stored))

/-- The settings before the paths in them are checked. -/
def loadUnchecked (ws : Workspace) (given : List (String × Value)) : Except Error Settings := do
  let value ← configText given
  unchecked given (← storedEntries ws (Path.ofText value))

theorem unchecked_eq_ok {given : List (String × Value)} {stored : List (Datum × Datum)} {s : Settings} :
    unchecked given stored = .ok s ↔
      (∀ e ∈ entriesOver given stored, ∃ name ∈ fieldNames, e.1 = .str name) ∧
        s.ReadFrom (entriesOver given stored) := by
  rw [unchecked, bind_eq_ok]
  constructor
  · rintro ⟨named, hnamed, h⟩
    obtain ⟨hnames, hread⟩ := ofEntries_eq_ok.mp h
    rw [namedEntries_eq_ok.mp hnamed]
    refine ⟨fun e he => ?_, hread⟩
    obtain ⟨n, hn, rfl⟩ := List.mem_map.mp he
    exact ⟨n.1, hnames n hn, rfl⟩
  · rintro ⟨hnames, hread⟩
    obtain ⟨named, hnamed, hfields⟩ := exists_named hnames
    exact ⟨named, namedEntries_eq_ok.mpr hnamed, ofEntries_eq_ok.mpr ⟨hfields, hnamed ▸ hread⟩⟩

theorem load_eq_bind (ws : Workspace) (given : List (String × Value)) :
    Settings.load ws given = loadUnchecked ws given >>= fun s₀ => s₀.checkPaths ws := by
  unfold Settings.load loadUnchecked configText storedEntries unchecked
  generalize given.lookup "config_file" = found
  cases found with
  | none =>
    simp only [pure_bind]
    split <;> simp only [bind_assoc]
  | some v =>
    cases v with
    | str text =>
      simp only [pure_bind]
      split <;> simp only [bind_assoc]
    | _ => rfl

theorem load_eq_ok {ws : Workspace} {given : List (String × Value)} {s : Settings} :
    Settings.load ws given = .ok s ↔
      ∃ s₀, loadUnchecked ws given = .ok s₀ ∧
        ∃ configFile, checkConfigFile ws s₀.modulePath s₀.configFile = .ok configFile ∧
          (∃ git, checkGitExecutable ws s₀.gitExecutable = .ok git) ∧ s = { s₀ with configFile } := by
  rw [load_eq_bind, bind_eq_ok]
  refine exists_congr fun s₀ => and_congr_right fun _ => ?_
  constructor
  · intro h
    unfold Settings.checkPaths at h
    split at h
    · next configFile git hconfig hgit => exact ⟨configFile, hconfig, ⟨git, hgit⟩, (Except.ok.inj h).symm⟩
    · cases h
  · rintro ⟨configFile, hconfig, ⟨git, hgit⟩, rfl⟩
    rw [Settings.checkPaths, hconfig, hgit]

theorem loadUnchecked_eq_ok {ws : Workspace} {given : List (String × Value)} {s : Settings} :
    loadUnchecked ws given = .ok s ↔
      ∃ value, configText given = .ok value ∧
        ∃ stored, storedEntries ws (Path.ofText value) = .ok stored ∧ unchecked given stored = .ok s := by
  simp only [loadUnchecked, bind_eq_ok]

end Settings

/-! ## Checks -/

theorem checkConfigFile_eq_ok {ws : Workspace} {modulePath : Path} {value configFile : String} :
    checkConfigFile ws modulePath value = .ok configFile ↔
      ws.isDirectory (Path.ofText value) = false ∧ ws.exists? (Path.ofText value).parent = true ∧
        (if (Path.ofText value).isAbsolute || isDotted value then value
          else (Path.ofLocation (ws.resolve (modulePath.join (Path.ofText value)))).text) = configFile := by
  unfold checkConfigFile
  dsimp only
  cases ws.isDirectory (Path.ofText value) <;> cases ws.exists? (Path.ofText value).parent <;>
    cases (Path.ofText value).isAbsolute || isDotted value <;> simp

theorem checkGitExecutable_eq_ok {ws : Workspace} {value git : String} :
    checkGitExecutable ws value = .ok git ↔
      ws.exists? (Path.ofText value) = true ∧ ws.isFile (Path.ofText value) = true ∧ ws.runs value = true ∧
        value = git := by
  unfold checkGitExecutable
  dsimp only
  cases ws.exists? (Path.ofText value) <;> cases ws.isFile (Path.ofText value) <;> cases ws.runs value <;>
    simp

theorem checkGitExecutable_of_path {ws : Workspace} {value : String} (hslash : '/' ∈ value.toList)
    (h : ws.files.isExecutable ws.cwd (Path.ofText value) = true) : checkGitExecutable ws value = .ok value := by
  have hruns : ws.runs value = true := by
    rw [Workspace.runs, if_pos (by simpa using hslash), h]
  unfold FileTree.isExecutable at h
  split at h
  · next hfound =>
    refine checkGitExecutable_eq_ok.mpr ⟨?_, ?_, hruns, rfl⟩
    · rw [Workspace.exists?, FileTree.exists?, hfound]
      rfl
    · rw [Workspace.isFile, FileTree.isFile, hfound]
  · cases h

end ModuleDocs
