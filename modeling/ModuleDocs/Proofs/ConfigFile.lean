import ModuleDocs.Proofs.Text.Split
import ModuleDocs.Proofs.WrittenFile

/-! # The two config files

The config file is read before anything is checked, at its path seen from the current directory. The one that is
written is at the checked path, which is below the module unless it is absolute or dotted. Names lead from two
directories to one place if the directories agree after as many steps back as the names take (`follow_eq_follow_iff`),
so the two files are the same only in that case (`readConfig_eq_dumped_iff`). -/
set_option autoImplicit false

namespace ModuleDocs

open Yaml

/-! ## Names in paths -/

/-- A text that can stand between the slashes of a path. -/
def IsPathName (name : String) : Prop := name ≠ "" ∧ name ≠ "." ∧ '/' ∉ name.toList

/-- The location of a file or directory: names without double points. -/
def IsProper (loc : Location) : Prop := ∀ name ∈ loc, IsPathName name ∧ name ≠ ".."

instance : DecidablePred IsPathName := fun name =>
  inferInstanceAs (Decidable (name ≠ "" ∧ name ≠ "." ∧ '/' ∉ name.toList))

instance (loc : Location) : Decidable (IsProper loc) :=
  inferInstanceAs (Decidable (∀ name ∈ loc, IsPathName name ∧ name ≠ ".."))

theorem Path.isPathName_of_mem_ofText {text name : String} (h : name ∈ (Path.ofText text).names) :
    IsPathName name := by
  rw [Path.ofText, List.mem_filter, Bool.and_eq_true, decide_eq_true_iff, decide_eq_true_iff] at h
  obtain ⟨hname, hne, hpoint⟩ := h
  obtain ⟨piece, hpiece, rfl⟩ := List.mem_map.mp hname
  refine ⟨hne, hpoint, ?_⟩
  rw [String.toList_ofList]
  exact (Text.of_mem_splitOn hpiece).1

theorem Path.ofText_text_ofLocation {loc : Location} (h : IsProper loc) :
    Path.ofText (Path.ofLocation loc).text = Path.ofLocation loc := by
  have htext : (Path.ofLocation loc).text.toList = '/' :: ['/'].intercalate (loc.map String.toList) := by
    rw [Path.text, Path.ofLocation]
    simp
  cases loc with
  | nil => decide
  | cons first more =>
    have hpieces : ∀ piece ∈ (first :: more).map String.toList, '/' ∉ piece := by
      intro piece hpiece
      obtain ⟨name, hname, rfl⟩ := List.mem_map.mp hpiece
      exact (h name hname).1.2.2
    -- The first name has a first character, so that the text starts with a single slash.
    obtain ⟨c, rest, hrest, hc⟩ : ∃ c rest,
        ['/'].intercalate ((first :: more).map String.toList) = c :: rest ∧ c ≠ '/' := by
      obtain ⟨⟨hne, -, hslash⟩, -⟩ := h first List.mem_cons_self
      cases hfirst : first.toList with
      | nil => exact absurd (String.toList_eq_nil_iff.mp hfirst) hne
      | cons c cs =>
        rw [hfirst, List.mem_cons, not_or] at hslash
        cases more with
        | nil =>
          refine ⟨c, cs, ?_, Ne.symm hslash.1⟩
          rw [List.map_cons, List.map_nil, List.intercalate_singleton, hfirst]
        | cons next more =>
          refine ⟨c, cs ++ ['/'] ++ ['/'].intercalate ((next :: more).map String.toList), ?_, Ne.symm hslash.1⟩
          rw [List.map_cons, List.map_cons, List.intercalate_cons_cons, hfirst]
          rfl
    have hsplit : Text.splitOn ['/'] ('/' :: c :: rest) = [] :: (first :: more).map String.toList := by
      rw [Text.splitOn_cons_self, ← hrest, Text.splitOn_intercalate (by simp) hpieces]
    have hnames : (([] :: (first :: more).map String.toList).map String.ofList).filter
        (fun name => name ≠ "" && name ≠ ".") = first :: more := by
      rw [List.map_cons, List.map_map, List.filter_cons_of_neg (by decide)]
      simp only [Function.comp_def, String.ofList_toList, List.map_id']
      refine List.filter_eq_self.mpr fun name hname => ?_
      simp [(h name hname).1.1, (h name hname).1.2.1]
    unfold Path.ofText
    rw [htext, hrest, hsplit]
    dsimp only
    rw [hnames, Path.ofLocation]
    simp [hc]

/-! ## Steps back and forth -/

/-- What names do to a location so far: how many of its own names they take away, and which names they add. -/
def netStep (net : Nat × List String) (name : String) : Nat × List String :=
  if name = ".." then (if net.2 = [] then (net.1 + 1, []) else (net.1, net.2.dropLast))
  else (net.1, net.2 ++ [name])

/-- How many directories names step back. -/
def climb (names : List String) : Nat := (names.foldl netStep (0, [])).1

/-- A location without its last names. -/
def stepBack (n : Nat) (loc : Location) : Location := loc.take (loc.length - n)

theorem dropLast_stepBack (n : Nat) (loc : Location) : (stepBack n loc).dropLast = stepBack (n + 1) loc := by
  unfold stepBack
  rw [List.dropLast_eq_take, List.take_take, List.length_take]
  congr 1
  omega

theorem follow_stepBack (loc : Location) (names : List String) (net : Nat × List String) :
    Path.follow (stepBack net.1 loc ++ net.2) names =
      stepBack (names.foldl netStep net).1 loc ++ (names.foldl netStep net).2 := by
  induction names generalizing net with
  | nil => rfl
  | cons name names ih =>
    rw [Path.follow, List.foldl_cons, ← ih]
    congr 1
    unfold netStep
    by_cases hname : name = ".."
    · rw [if_pos hname, if_pos hname]
      by_cases hnet : net.2 = []
      · rw [if_pos hnet, hnet, List.append_nil, List.append_nil, dropLast_stepBack]
      · rw [if_neg hnet, List.dropLast_append_of_ne_nil hnet]
    · rw [if_neg hname, if_neg hname, List.append_assoc]

theorem follow_eq_follow_iff (a b : Location) (names : List String) :
    Path.follow a names = Path.follow b names ↔ stepBack (climb names) a = stepBack (climb names) b := by
  have hfollow : ∀ loc : Location, Path.follow loc names =
      stepBack (climb names) loc ++ (names.foldl netStep (0, [])).2 := by
    intro loc
    rw [climb, ← follow_stepBack]
    simp [stepBack]
  rw [hfollow, hfollow, List.append_left_inj]

theorem resolve_join {path : Path} (h : path.isAbsolute = false) (cwd : Location) (p : Path) :
    (p.join path).resolve cwd = Path.follow (p.resolve cwd) path.names := by
  rw [Path.join, if_neg (by simp [h]), Path.resolve, Path.follow_append]
  rfl

theorem isProper_follow {loc : Location} (hloc : IsProper loc) {names : List String}
    (hnames : ∀ name ∈ names, IsPathName name) : IsProper (Path.follow loc names) := by
  induction names generalizing loc with
  | nil => exact hloc
  | cons name names ih =>
    rw [List.forall_mem_cons] at hnames
    rw [Path.follow]
    split
    · exact ih (fun other hother => hloc other (List.dropLast_subset loc hother)) hnames.2
    · next hname =>
      refine ih (fun other hother => ?_) hnames.2
      obtain hother | hother := List.mem_append.mp hother
      · exact hloc other hother
      · obtain rfl := List.mem_singleton.mp hother
        exact ⟨hnames.1, hname⟩

theorem isProper_resolve {cwd : Location} (hcwd : IsProper cwd) {p : Path} (hp : ∀ name ∈ p.names, IsPathName name) :
    IsProper (p.resolve cwd) := by
  rw [Path.resolve]
  split
  · exact isProper_follow (fun name hname => absurd hname List.not_mem_nil) hp
  · exact isProper_follow hcwd hp

theorem resolve_ofLocation {loc : Location} (h : IsProper loc) (cwd : Location) :
    (Path.ofLocation loc).resolve cwd = loc := by
  have hback : ".." ∉ loc := fun hmem => (h ".." hmem).2 rfl
  exact FileTree.follow_of_notMem hback []

/-! ## Settings -/

namespace Settings

theorem configFile_of_unchecked {given : List (String × Value)} (hgiven : (given.map Prod.fst).Nodup) {value : String}
    (hvalue : configText given = .ok value) {stored : List (Datum × Datum)}
    (hown : given.lookup "config_file" = none → Datum.entry? "config_file" stored = none) {s : Settings}
    (h : unchecked given stored = .ok s) : s.configFile = value := by
  have hfield := (unchecked_eq_ok.mp h).2.configFile
  rw [Typed.field, entry?_entriesOver hgiven] at hfield
  unfold configText at hvalue
  cases hlookup : given.lookup "config_file" with
  | none =>
    rw [hlookup] at hfield hvalue
    rw [hown hlookup] at hfield
    exact (Except.ok.inj hfield).symm.trans (Except.ok.inj hvalue)
  | some v =>
    rw [hlookup] at hfield hvalue
    cases v with
    | str text =>
      have hover : (Datum.entry? "config_file" stored).elim (.ofValue (.str text)) (Value.str text).over =
          .str text := by
        cases Datum.entry? "config_file" stored <;> rfl
      dsimp only at hfield
      rw [hover] at hfield
      exact (Except.ok.inj hfield).symm.trans (Except.ok.inj hvalue)
    | _ => cases hvalue

theorem isPathName_of_mem_modulePath {entries : List (Datum × Datum)} {s : Settings} (h : s.ReadFrom entries) :
    ∀ name ∈ s.modulePath.names, IsPathName name := by
  have hfield := h.modulePath
  unfold Typed.field at hfield
  split at hfield
  · rw [← Except.ok.inj hfield]
    exact fun name hname => absurd hname List.not_mem_nil
  · obtain ⟨text, -, htext⟩ := map_eq_ok.mp hfield
    rw [← htext]
    exact fun name hname => Path.isPathName_of_mem_ofText hname

end Settings

/-- Checking leaves the place of a config file as it is if its path is absolute or dotted, or if the current directory
and that of the module agree as far as the path does not step back. -/
theorem resolve_checked_iff {ws : Workspace} (hcwd : IsProper ws.cwd) {modulePath : Path}
    (hmodule : ∀ name ∈ modulePath.names, IsPathName name) {value configFile : String}
    (h : checkConfigFile ws modulePath value = .ok configFile) :
    ws.resolve (Path.ofText value) = ws.resolve (Path.ofText configFile) ↔
      (Path.ofText value).isAbsolute = true ∨ isDotted value = true ∨
        stepBack (climb (Path.ofText value).names) ws.cwd =
          stepBack (climb (Path.ofText value).names) (ws.resolve modulePath) := by
  obtain ⟨-, -, hconfig⟩ := checkConfigFile_eq_ok.mp h
  by_cases hliteral : ((Path.ofText value).isAbsolute || isDotted value) = true
  · rw [← hconfig, if_pos hliteral, eq_self, true_iff]
    exact (Bool.or_eq_true _ _ ▸ hliteral).imp_right .inl
  · rw [if_neg hliteral] at hconfig
    rw [Bool.or_eq_true, not_or, Bool.not_eq_true, Bool.not_eq_true] at hliteral
    obtain ⟨habsolute, hdotted⟩ := hliteral
    have hproper : IsProper (ws.resolve (modulePath.join (Path.ofText value))) := by
      rw [Workspace.resolve, resolve_join habsolute]
      exact isProper_follow (isProper_resolve hcwd hmodule) fun name hname => Path.isPathName_of_mem_ofText hname
    have hwritten : ws.resolve (Path.ofText configFile) = ws.resolve (modulePath.join (Path.ofText value)) := by
      rw [← hconfig, Path.ofText_text_ofLocation hproper]
      exact resolve_ofLocation hproper ws.cwd
    have hread : ws.resolve (Path.ofText value) = Path.follow ws.cwd (Path.ofText value).names := by
      rw [Workspace.resolve, Path.resolve, habsolute]
      rfl
    rw [hwritten, hread, Workspace.resolve, resolve_join habsolute, follow_eq_follow_iff, habsolute, hdotted]
    simp [Workspace.resolve]

/-- Settings that are loaded with what is read at one place are dumped to another one, unless the path of the config
file is absolute or dotted, or the current directory and that of the module agree as far as it does not step back. -/
theorem readConfig_eq_dumped_iff {ws : Workspace} (hcwd : IsProper ws.cwd) {given : List (String × Value)}
    (hgiven : (given.map Prod.fst).Nodup) {value : String} (hvalue : Settings.configText given = .ok value)
    {stored : List (Datum × Datum)} (hstored : Settings.storedEntries ws (Path.ofText value) = .ok stored)
    (hown : given.lookup "config_file" = none → Datum.entry? "config_file" stored = none) {s : Settings}
    (h : Settings.load ws given = .ok s) :
    (ws.resolve (Path.ofText value) = ws.resolve (Path.ofText s.configFile) ↔
      (Path.ofText value).isAbsolute = true ∨ isDotted value = true ∨
        stepBack (climb (Path.ofText value).names) ws.cwd =
          stepBack (climb (Path.ofText value).names) (ws.resolve s.modulePath)) ∧
      ∀ ws', s.dumpConfig = true → s.dump ws = .ok ws' → ∃ executable,
        ws'.files.at? (ws.resolve (Path.ofText s.configFile)) = some (.file s.stored.toYaml executable) := by
  constructor
  · obtain ⟨s₀, hs₀, configFile, hcheck, -, rfl⟩ := Settings.load_eq_ok.mp h
    obtain ⟨value', hvalue', stored', hstored', hs₀⟩ := Settings.loadUnchecked_eq_ok.mp hs₀
    obtain rfl := Except.ok.inj (hvalue.symm.trans hvalue')
    obtain rfl := Except.ok.inj (hstored.symm.trans hstored')
    rw [Settings.configFile_of_unchecked hgiven hvalue hown hs₀] at hcheck
    have hmodule := Settings.isPathName_of_mem_modulePath (Settings.unchecked_eq_ok.mp hs₀).2
    exact resolve_checked_iff hcwd hmodule hcheck
  · intro ws' hdump hdumped
    obtain ⟨tree', executable, hwrites, rfl⟩ := Settings.dump_eq_ok hdump hdumped
    exact ⟨executable, by rw [hwrites.at?_eq, if_pos rfl]⟩

/-- A directory with a module below it, which has a config file. -/
def moduleBelow : Workspace where
  cwd := ["w"]
  files := ⟨[(["w"], .directory), (["w", "m"], .directory),
    (["w", "m", defaultConfigFile], .file "debug: true\n" false),
    (["usr"], .directory), (["usr", "bin"], .directory), (["usr", "bin", "git"], .file "" true)]⟩

theorem load_moduleBelow {module configFile : String}
    (h : checkConfigFile moduleBelow (Path.ofText module) defaultConfigFile = .ok configFile) :
    Settings.load moduleBelow [("module_path", .str module)] =
      .ok { modulePath := Path.ofText module, configFile } := by
  have hgit : checkGitExecutable moduleBelow "/usr/bin/git" = .ok "/usr/bin/git" :=
    checkGitExecutable_of_path (by decide) (by decide)
  exact Settings.load_eq_ok.mpr ⟨{ modulePath := Path.ofText module }, rfl, configFile, h, ⟨_, hgit⟩, rfl⟩

theorem readConfig_eq_dumped_here :
    ∃ s, Settings.load moduleBelow [("module_path", .str "m/..")] = .ok s ∧
      moduleBelow.resolve (Path.ofText defaultConfigFile) = moduleBelow.resolve (Path.ofText s.configFile) := by
  have hload := @load_moduleBelow "m/.." "/w/.tofu-docs.yml" (by rfl)
  exact ⟨_, hload, (readConfig_eq_dumped_iff (by decide) (by decide) rfl rfl (fun _ => rfl) hload).1.mpr (by decide)⟩

/-- The config file of a module is the one to write, but it is not read. -/
theorem readConfig_ne_dumped_below :
    ∃ s, Settings.load moduleBelow [("module_path", .str "m")] = .ok s ∧ s.debug = false ∧
      moduleBelow.read (Path.ofText s.configFile) = .ok "debug: true\n" ∧
      moduleBelow.resolve (Path.ofText defaultConfigFile) ≠ moduleBelow.resolve (Path.ofText s.configFile) := by
  have hload := @load_moduleBelow "m" "/w/m/.tofu-docs.yml" (by rfl)
  exact ⟨_, hload, rfl, by rfl, by decide⟩

end ModuleDocs
