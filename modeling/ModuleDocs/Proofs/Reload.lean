import ModuleDocs.Proofs.StoredSettings
import ModuleDocs.Proofs.Text.Lines
import ModuleDocs.Proofs.WrittenFile
import ModuleDocs.Proofs.WrittenTree

/-! # Settings that are written and loaded again

A value is written without carriage returns (`notMem_toYaml`), so that the text of a config file is read as it was
written. Where the config file is found at the place it is written to, and its YAML text means what was written, the
settings that were dumped are the ones that are loaded (`load_dumped`). -/
set_option autoImplicit false

namespace ModuleDocs

open Yaml

/-! ## Carriage returns -/

mutual

/-- Whether a value has no numbers but whole ones. -/
def Value.isFloatFree : Value → Bool
  | .float _ => false
  | .list items => areFloatFree items
  | .map entries => hasFloatFree entries
  | _ => true

def areFloatFree : List Value → Bool
  | [] => true
  | v :: more => v.isFloatFree && areFloatFree more

def hasFloatFree : List (String × Value) → Bool
  | [] => true
  | (_, v) :: more => v.isFloatFree && hasFloatFree more

end

section Text

theorem notMem_append {s t : String} (hs : '\r' ∉ s.toList) (ht : '\r' ∉ t.toList) : '\r' ∉ (s ++ t).toList := by
  rw [String.toList_append, List.mem_append, not_or]
  exact ⟨hs, ht⟩

theorem notMem_hexDigits (width n : Nat) : '\r' ∉ upperHex width n := by
  have hdigit : ∀ k < 16, (Nat.digitChar k).toUpper ≠ '\r' := by decide
  unfold upperHex
  induction width generalizing n with
  | zero => exact List.not_mem_nil
  | succ width ih =>
    rw [Text.hexDigits, List.map_append, List.mem_append, not_or, List.map_singleton, List.mem_singleton]
    exact ⟨ih (n / 16), Ne.symm (hdigit _ (Nat.mod_lt n (by decide)))⟩

theorem notMem_escapeInQuotes (c : Char) : '\r' ∉ escapeInQuotes c := by
  unfold escapeInQuotes
  split
  · next letter hletter =>
    have hne : letter ≠ '\r' := by
      unfold escapeLetter? at hletter
      split at hletter <;> cases hletter <;> decide
    simp [Ne.symm hne]
  · split
    · simp [notMem_hexDigits]
    · split <;> simp [notMem_hexDigits]

theorem notMem_doubleQuoted (s : String) : '\r' ∉ (doubleQuoted s).toList := by
  have hchars : '\r' ∉ s.toList.flatMap fun c => if standsInQuotes c then [c] else escapeInQuotes c := by
    rw [List.mem_flatMap]
    rintro ⟨c, -, hc⟩
    split at hc
    · next hstands =>
      rw [← List.mem_singleton.mp hc] at hstands
      exact absurd hstands (by decide)
    · exact notMem_escapeInQuotes c hc
  refine notMem_append (notMem_append (by decide) ?_) (by decide)
  rw [String.toList_ofList]
  exact hchars

theorem notMem_toString (n : Int) : '\r' ∉ (toString n).toList := by
  have hnat : ∀ m : Nat, '\r' ∉ m.repr.toList := by
    intro m hm
    rw [Nat.toList_repr] at hm
    exact absurd (Nat.isDigit_of_mem_toDigits (by decide) (by decide) hm) (by decide)
  rw [Int.toString_eq_repr, Int.repr_eq_if]
  split
  · exact hnat _
  · exact notMem_append (by decide) (hnat _)

theorem notMem_scalarText {v : Value} (h : v.isFloatFree = true) : '\r' ∉ (scalarText v).toList := by
  cases v with
  | null => decide
  | bool b => cases b <;> decide
  | int n => exact notMem_toString n
  | float d => cases h
  | str s => exact notMem_doubleQuoted s
  | list items => exact (by decide : '\r' ∉ "[]".toList)
  | map entries => exact (by decide : '\r' ∉ "\x7b\x7d".toList)

mutual

theorem notMem_blockLines {indent : String} (hindent : '\r' ∉ indent.toList) :
    ∀ {v : Value}, v.isFloatFree = true → ∀ line ∈ blockLines indent v, '\r' ∉ line.toList
  | .list items, h => notMem_itemLines hindent items h
  | .map entries, h => notMem_entryLines hindent entries h
  | .null, h | .bool _, h | .int _, h | .str _, h => by
    intro line hline
    rw [blockLines, List.mem_singleton] at hline
    · rw [hline]
      exact notMem_append hindent (notMem_scalarText h)
    all_goals simp

theorem notMem_itemLines {indent : String} (hindent : '\r' ∉ indent.toList) :
    ∀ (items : List Value), areFloatFree items = true → ∀ line ∈ itemLines indent items, '\r' ∉ line.toList
  | [], _ => by simp [itemLines]
  | v :: more, h => by
    rw [areFloatFree, Bool.and_eq_true] at h
    have hdeeper : '\r' ∉ (indent ++ "  ").toList := notMem_append hindent (by decide)
    have hblock := notMem_blockLines hdeeper h.1
    have hmore := notMem_itemLines hindent more h.2
    intro line hline
    rw [itemLines, List.mem_append] at hline
    obtain hline | hline := hline
    · split at hline
      · obtain rfl | hline := List.mem_cons.mp hline
        · exact notMem_append hindent (by decide)
        · exact hblock line hline
      · rw [List.mem_singleton.mp hline]
        exact notMem_append (notMem_append hindent (by decide)) (notMem_scalarText h.1)
    · exact hmore line hline

theorem notMem_entryLines {indent : String} (hindent : '\r' ∉ indent.toList) :
    ∀ (entries : List (String × Value)), hasFloatFree entries = true →
      ∀ line ∈ entryLines indent entries, '\r' ∉ line.toList
  | [], _ => by simp [entryLines]
  | (key, v) :: more, h => by
    rw [hasFloatFree, Bool.and_eq_true] at h
    have hdeeper : '\r' ∉ (indent ++ "  ").toList := notMem_append hindent (by decide)
    have hblock := notMem_blockLines hdeeper h.1
    have hmore := notMem_entryLines hindent more h.2
    have hkey : '\r' ∉ (indent ++ doubleQuoted key ++ ":").toList :=
      notMem_append (notMem_append hindent (notMem_doubleQuoted key)) (by decide)
    intro line hline
    rw [entryLines, List.mem_append] at hline
    obtain hline | hline := hline
    · split at hline
      · obtain rfl | hline := List.mem_cons.mp hline
        · exact hkey
        · exact hblock line hline
      · rw [List.mem_singleton.mp hline]
        exact notMem_append (notMem_append hkey (by decide)) (notMem_scalarText h.1)
    · exact hmore line hline

end

theorem notMem_toYaml {v : Value} (h : v.isFloatFree = true) : '\r' ∉ v.toYaml.toList := by
  have hempty : '\r' ∉ "".toList := by decide
  rw [Value.toYaml, String.toList_join, List.mem_flatMap]
  rintro ⟨_, hended, hmem⟩
  obtain ⟨line, hline, rfl⟩ := List.mem_map.mp hended
  exact notMem_append (notMem_blockLines hempty h line hline) (by decide) hmem

end Text

theorem Settings.isFloatFree_stored (s : Settings) : (Value.map s.storedFields).isFloatFree = true := by
  have hvars : ∀ vars : List (String × String), hasFloatFree (vars.map fun e => (e.1, .str e.2)) = true := by
    intro vars
    induction vars with
    | nil => rfl
    | cons e vars ih => simp [hasFloatFree, Value.isFloatFree, ih]
  have hrules : areFloatFree (s.replace.map ReplaceRule.toValue) = true := by
    induction s.replace with
    | nil => rfl
    | cons r rules ih =>
      rw [List.map_cons, areFloatFree, ih, Bool.and_true]
      simp [ReplaceRule.toValue, Value.isFloatFree, hasFloatFree, hvars]
  simp [storedFields, Value.isFloatFree, hasFloatFree, TargetSettings.toValue, FormatSettings.toValue, hrules]

/-- Stored settings are readable if their numbers are: all else is in quotes, or a truth value. -/
theorem Settings.isReadable_stored (s : Settings)
    (hnumbers : ∀ n ∈ [s.changedExitCode, s.unchangedExitCode, s.targetConfig.headingLevel,
      s.format.collapsibleLongThreshold], (Value.int n).IsReadable)
    (hvars : ∀ r ∈ s.replace, (r.vars.map Prod.fst).Nodup) : (Value.map s.storedFields).IsReadable := by
  have hrules : ∀ r ∈ s.replace, r.toValue.IsReadable := by
    intro r hr
    have hvars : (Value.map (r.vars.map fun e => (e.1, .str e.2))).IsReadable := by
      rw [isReadable_map, List.map_map, List.forall_mem_map]
      exact ⟨hvars r hr, fun e _ => isReadable_str e.2⟩
    simp [ReplaceRule.toValue, @isReadable_map (_ :: _), isReadable_str, hvars]
  simp only [List.forall_mem_cons] at hnumbers
  obtain ⟨hchanged, hunchanged, hlevel, hthreshold, -⟩ := hnumbers
  simpa [storedFields, TargetSettings.toValue, FormatSettings.toValue, isReadable_map, isReadable_list, isReadable_str,
    isReadable_bool, hchanged, hunchanged, hlevel, hthreshold] using hrules

/-! ## Reloading -/

namespace Settings

theorem exists_of_exists? {ws : Workspace} {path : Path} (h : ws.exists? path = true) :
    ∃ found, ws.files.find ws.cwd path = .ok found := by
  rw [Workspace.exists?, FileTree.exists?] at h
  cases hfind : ws.files.find ws.cwd path with
  | error e =>
    rw [hfind] at h
    cases h
  | ok found => exact ⟨found, rfl⟩

theorem storedEntries_of_find {ws : Workspace} {path : Path} {loc : Location} {text : String} {executable : Bool}
    (hfind : ws.files.find ws.cwd path = .ok (loc, .file text executable)) (htext : '\r' ∉ text.toList)
    {entries : List (Datum × Datum)} (hyaml : Datum.ofYaml text = .ok (.map entries)) :
    storedEntries ws path = .ok entries := by
  have hfile : ws.isFile path = true := by
    rw [Workspace.isFile, FileTree.isFile, hfind]
  have hexists : ws.exists? path = true := by
    rw [Workspace.exists?, FileTree.exists?, hfind]
    rfl
  have hread : ws.read path = .ok text := by
    rw [Workspace.read, FileTree.read, hfind]
    change Except.ok (String.ofList (Text.unifyNewlines text.toList)) = _
    rw [Text.unifyNewlines_of_not_mem htext, String.ofList_toList]
  have hconfig : readConfig ws path = .ok (.map entries) := by
    rw [readConfig, hexists, hread, ok_bind, hyaml, ok_bind]
    cases entries <;> rfl
  rw [storedEntries, hfile, if_pos rfl, hconfig, ok_bind]
  rfl

theorem checked_of_load {ws : Workspace} {given : List (String × Value)} {s₀ s : Settings}
    (hs₀ : loadUnchecked ws given = .ok s₀) (hs : Settings.load ws given = .ok s) :
    checkConfigFile ws s.modulePath s₀.configFile = .ok s.configFile ∧
      (∃ git, checkGitExecutable ws s.gitExecutable = .ok git) ∧ s.HasChoices ∧ s.faults = [] ∧ s.forced = [] := by
  obtain ⟨s₁, hs₁, configFile, hconfig, hgit, rfl⟩ := load_eq_ok.mp hs
  obtain rfl := Except.ok.inj (hs₀.symm.trans hs₁)
  obtain ⟨value, -, stored, -, hunchecked⟩ := loadUnchecked_eq_ok.mp hs₀
  have hread := (unchecked_eq_ok.mp hunchecked).2
  -- The check replaces the config file only, so the choices are those that were read.
  have hchoices := hread.hasChoices
  refine ⟨hconfig, hgit, ?_, hread.faults, hread.forced⟩
  exact ⟨hchoices.insertPosition, hchoices.outputFormat, hchoices.sortOrder⟩

/-- Settings that are dumped are loaded again, from the place of the module and the config file alone. -/
theorem load_dumped {ws : Workspace} (hclosed : ws.files.IsClosed) (hcwd : ".." ∉ ws.cwd)
    {given : List (String × Value)} {s₀ s : Settings} (hs₀ : loadUnchecked ws given = .ok s₀)
    (hs : Settings.load ws given = .ok s)
    (hplace : ws.resolve (Path.ofText s₀.configFile) = ws.resolve (Path.ofText s.configFile))
    (hdump : s.dumpConfig = true) {ws' : Workspace} (hdumped : s.dump ws = .ok ws')
    (hyaml : Datum.ofYaml s.stored.toYaml = .ok (.ofValue s.stored)) {module : String}
    (hmodule : Path.ofText module = s.modulePath) :
    Settings.load ws' (givenPlaces module s₀.configFile) =
      .ok { s with dumpConfig := false, dumpOverwrite := false } := by
  obtain ⟨hconfig, ⟨git, hgit⟩, hchoices, hfaults, hforced⟩ := checked_of_load hs₀ hs
  obtain ⟨tree', executable, hwrites, rfl⟩ := dump_eq_ok hdump hdumped
  rw [stored_eq hforced] at hyaml hwrites
  -- The config file, as it is given, leads to the file that was written.
  have hfind : tree'.find ws.cwd (Path.ofText s₀.configFile) =
      .ok (ws.resolve (Path.ofText s.configFile), .file (Value.map s.storedFields).toYaml executable) := by
    obtain ⟨-, hparent, -⟩ := checkConfigFile_eq_ok.mp hconfig
    obtain ⟨parent, hparent⟩ := exists_of_exists? hparent
    refine hwrites.walk_written hclosed ?_ hplace hparent
    split
    · exact List.not_mem_nil
    · exact hcwd
  have hentries : storedEntries { ws with files := tree' } (Path.ofText s₀.configFile) =
      .ok (Datum.ofEntries s.storedFields) :=
    storedEntries_of_find hfind (notMem_toYaml s.isFloatFree_stored) hyaml
  have hagain := unchecked_stored hchoices hfaults hforced module s₀.configFile
  refine load_eq_ok.mpr ⟨_, loadUnchecked_eq_ok.mpr ⟨s₀.configFile, rfl, _, hentries, hagain⟩, s.configFile, ?_,
    ⟨git, hwrites.git_checked hgit⟩, ?_⟩
  · rw [hmodule]
    exact hwrites.config_checked hfind hconfig
  · rw [hmodule]

end Settings

/-! ## A config file -/

def emptyModule : Workspace where
  cwd := ["w"]
  files := ⟨[(["w"], .directory), (["usr"], .directory), (["usr", "bin"], .directory),
    (["usr", "bin", "git"], .file "" true)]⟩

/-- Settings from the command line, of all kinds. -/
def dumpedGiven : List (String × Value) :=
  [("dump_config", .bool true), ("config_file", .str "c.yml"), ("changed_exit_code", .int 1),
    ("target_config", .map [("marker", .str "D"), ("heading", .str "M"), ("empty_header", .str "x")]),
    ("format", .map [("validation_remove", .bool true)]),
    ("replace", .list [.map [("pattern", .str "a"), ("replace", .str "b"), ("vars", .map [("n", .str "é")]),
      ("column", .str "type")]])]

def dumpedSettings : Settings where
  dumpConfig := true
  configFile := "/w/c.yml"
  changedExitCode := 1
  targetConfig := { marker := "D", heading := "M", emptyHeader := "x" }
  format := { validationRemove := true }
  replace := [{ pattern := "a", replace := "b", vars := [("n", "é")], column := .type }]

theorem fits_ofSources (tag : Tag) (starts : String) (alternatives : List String) (cs : List Char) :
    (Writing.ofSources tag starts alternatives).fits cs =
      (cs.head?.any starts.toList.contains && (Pattern.read? (String.ofList ("(?:".toList ++
        "|".toList.intercalate (alternatives.map String.toList) ++ ")$".toList))).any (·.leads cs)) := by
  have hsource : "(?:" ++ "|".intercalate alternatives ++ ")$" = String.ofList ("(?:".toList ++
      "|".toList.intercalate (alternatives.map String.toList) ++ ")$".toList) := by
    rw [← String.toList_inj]
    simp
  rw [Writing.ofSources, Writing.fits, hsource]

theorem ofPlain_eq_int : ∀ cs ∈ [['1'], ['0'], ['2'], ['2', '5']], Tag.ofPlain false cs = .int := by
  intro cs hcs
  have hne : cs.isEmpty = false := by
    revert cs
    decide
  unfold Tag.ofPlain writings
  rw [hne, if_neg Bool.false_ne_true, if_neg Bool.false_ne_true, List.cons_append, List.find?_cons_of_neg,
    List.cons_append, List.find?_cons_of_neg, List.cons_append, List.find?_cons_of_pos]
  · rfl
  all_goals
    clear hne
    revert cs
    simp only [fits_ofSources, List.map_cons, List.map_nil]
    -- The kernel is slow at taking the characters from a text, so they are taken here.
    generalize hsource : "(?:".toList ++ _ ++ _ = source
    repeat rw [String.toList_ofList] at hsource
    rw [Pattern.read?, Pattern.read, Pattern.readWith, String.toList_ofList, String.toList_ofList, ← hsource]
    decide +kernel

theorem isReadable_int : ∀ n ∈ [(1 : Int), 0, 2, 25], (Value.int n).IsReadable := by
  intro n hn
  have htext : (scalarText (.int n)).toList ∈ [['1'], ['0'], ['2'], ['2', '5']] := by
    revert n
    decide
  simp only [Value.IsReadable, ofPlain_eq_int _ htext]
  simp only [List.mem_cons, List.not_mem_nil, or_false] at hn
  obtain rfl | rfl | rfl | rfl := hn <;> rfl

set_option maxRecDepth 20000 in
theorem tokensOf_dumpedSettings : tokensOf dumpedSettings.stored.toYaml.toList = dumpedSettings.stored.tokens := by
  rw [Settings.stored_eq rfl]
  simp only [Value.toYaml, String.toList_join, String.toList_append, String.toList_ofList,
    dumpedSettings, Settings.storedFields, TargetSettings.toValue, FormatSettings.toValue, ReplaceRule.toValue,
    blockLines, entryLines, itemLines, isBlock, scalarText, doubleQuoted, List.map_cons, List.map_nil,
    List.isEmpty_cons, Bool.not_false, if_true, if_false, Bool.false_eq_true,
    List.flatMap_cons, List.flatMap_nil, List.nil_append, List.append_nil, List.cons_append]
  repeat rw [String.toList_ofList]
  decide +kernel

theorem ofYaml_dumpedSettings :
    Datum.ofYaml dumpedSettings.stored.toYaml = .ok (.ofValue dumpedSettings.stored) := by
  refine ofYaml_of_tokens tokensOf_dumpedSettings ?_
  rw [Settings.stored_eq rfl]
  exact dumpedSettings.isReadable_stored isReadable_int (by decide)

theorem load_dumpedSettings :
    ∃ ws', dumpedSettings.dump emptyModule = .ok ws' ∧
      Settings.load ws' (Settings.givenPlaces "." "c.yml") = .ok { dumpedSettings with dumpConfig := false } := by
  have hunchecked : Settings.loadUnchecked emptyModule dumpedGiven =
      .ok { dumpedSettings with configFile := "c.yml" } := rfl
  have hgit : checkGitExecutable emptyModule "/usr/bin/git" = .ok "/usr/bin/git" :=
    checkGitExecutable_of_path (by decide) (by decide)
  have hload : Settings.load emptyModule dumpedGiven = .ok dumpedSettings :=
    Settings.load_eq_ok.mpr ⟨_, hunchecked, "/w/c.yml", rfl, ⟨_, hgit⟩, rfl⟩
  have hdump : dumpedSettings.dump emptyModule = .ok { emptyModule with
      files := emptyModule.files.put ["w", "c.yml"] (.file dumpedSettings.stored.toYaml false) } := rfl
  exact ⟨_, hdump, Settings.load_dumped (by decide) (by decide) hunchecked hload (by decide) rfl hdump
    ofYaml_dumpedSettings (by decide)⟩

end ModuleDocs
