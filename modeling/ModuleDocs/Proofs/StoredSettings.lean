import ModuleDocs.Proofs.Loading

/-! # Settings that are stored

A config file holds the settings that are not for the command line alone. Each group of settings is read back from its
value (`ofDatum_toValue`), and so are all that a config file holds (`Settings.unchecked_stored`): the choices among them
have a single admissible name each, and settings that were read have no others (`Settings.ReadFrom.hasChoices`). -/
set_option autoImplicit false

namespace ModuleDocs

open Yaml

/-! ## Choices -/

theorem eq_of_choice {α : Type} {name : String} {result x : α} {d : Datum} (h : choice name result d = .ok x) :
    x = result := by
  unfold choice at h
  split at h
  · split at h
    · exact (Except.ok.inj h).symm
    · cases h
  · cases h

theorem eq_of_field_choice {α : Type} {entries : List (Datum × Datum)} {field name : String} {result x : α}
    (h : Typed.field entries field (choice name result) result = .ok x) : x = result := by
  unfold Typed.field at h
  split at h
  · exact (Except.ok.inj h).symm
  · exact eq_of_choice h

/-- The settings that are choices have the names that can be chosen. -/
structure Settings.HasChoices (s : Settings) : Prop where
  insertPosition : s.targetConfig.insertPosition = .bottom
  outputFormat : s.targetConfig.format = .markdown
  sortOrder : s.format.sortOrder = .ascending

theorem TargetSettings.choices_of_ofDatum {d : Datum} {t : TargetSettings} (h : TargetSettings.ofDatum d = .ok t) :
    t.insertPosition = .bottom ∧ t.format = .markdown := by
  simp only [TargetSettings.ofDatum, bind_eq_ok, pure_eq_ok] at h
  obtain ⟨entries, -, _, -, insertPosition, hinsertPosition, format, hformat, _, -, _, -, _, -, rfl⟩ := h
  exact ⟨eq_of_field_choice hinsertPosition, eq_of_field_choice hformat⟩

theorem FormatSettings.choices_of_ofDatum {d : Datum} {f : FormatSettings} (h : FormatSettings.ofDatum d = .ok f) :
    f.sortOrder = .ascending := by
  simp only [FormatSettings.ofDatum, bind_eq_ok, pure_eq_ok] at h
  obtain ⟨entries, -, _, -, _, -, _, -, _, -, _, -, _, -, _, -, sortOrder, hsortOrder, h⟩ := h
  obtain ⟨_, -, _, -, _, -, _, -, _, -, _, -, _, -, _, -, _, -, _, -, _, -, rfl⟩ := h
  exact eq_of_field_choice hsortOrder

theorem Settings.ReadFrom.hasChoices {entries : List (Datum × Datum)} {s : Settings} (h : s.ReadFrom entries) :
    s.HasChoices := by
  have htarget : s.targetConfig.insertPosition = .bottom ∧ s.targetConfig.format = .markdown := by
    have hfield := h.targetConfig
    unfold Typed.field at hfield
    split at hfield
    · rw [← Except.ok.inj hfield]
      exact ⟨rfl, rfl⟩
    · exact TargetSettings.choices_of_ofDatum hfield
  have hformat : s.format.sortOrder = .ascending := by
    have hfield := h.format
    unfold Typed.field at hfield
    split at hfield
    · rw [← Except.ok.inj hfield]
    · exact FormatSettings.choices_of_ofDatum hfield
  exact ⟨htarget.1, htarget.2, hformat⟩

/-! ## Groups -/

theorem TargetSettings.ofDatum_toValue {t : TargetSettings} (hinsertPosition : t.insertPosition = .bottom)
    (hformat : t.format = .markdown) : TargetSettings.ofDatum (.ofValue t.toValue) = .ok t := by
  cases t
  cases hinsertPosition
  cases hformat
  rfl

theorem FormatSettings.ofDatum_toValue {f : FormatSettings} (h : f.sortOrder = .ascending) :
    FormatSettings.ofDatum (.ofValue f.toValue) = .ok f := by
  cases f
  cases h
  rfl

theorem TextColumn.ofName?_name (column : TextColumn) : TextColumn.ofName? column.name = some column := by
  cases column <;> decide

theorem mapM_text_ofEntries (vars : List (String × String)) :
    (Datum.ofEntries (vars.map fun e => (e.1, .str e.2))).mapM
      (fun e => do return (← Typed.text e.1, ← Typed.text e.2)) = .ok vars := by
  induction vars with
  | nil => rfl
  | cons e vars ih =>
    rw [List.map_cons, Datum.ofEntries, List.mapM_cons, ih]
    rfl

theorem ReplaceRule.ofDatum_toValue (r : ReplaceRule) : ReplaceRule.ofDatum (.ofValue r.toValue) = .ok r := by
  obtain ⟨pattern, replace, vars, column⟩ := r
  have hcolumn : TextColumn.ofDatum (.str column.name) = .ok column := by
    rw [TextColumn.ofDatum, Typed.text, ok_bind, TextColumn.ofName?_name]
    rfl
  have hsteps : ReplaceRule.ofDatum (.ofValue (ReplaceRule.mk pattern replace vars column).toValue) = (do
      let vars ← (Datum.ofEntries (vars.map fun e => (e.1, .str e.2))).mapM
        fun e => do return (← Typed.text e.1, ← Typed.text e.2)
      return { pattern, replace, vars, column := ← TextColumn.ofDatum (.str column.name) }) := rfl
  rw [hsteps, mapM_text_ofEntries, hcolumn]
  rfl

theorem list_ofDatum_toValue (rules : List ReplaceRule) :
    Typed.list ReplaceRule.ofDatum (.ofValue (.list (rules.map ReplaceRule.toValue))) = .ok rules := by
  have hitems : Datum.ofItems (rules.map ReplaceRule.toValue) = rules.map fun r => .ofValue r.toValue := by
    induction rules with
    | nil => rfl
    | cons r rules ih => rw [List.map_cons, Datum.ofItems, ih, List.map_cons]
  rw [Datum.ofValue, hitems, Typed.list, mapM_eq_ok, List.forall₂_map_left_iff, List.forall₂_same]
  exact fun r _ => r.ofDatum_toValue

/-! ## All settings -/

namespace Settings

def storedFields (s : Settings) : List (String × Value) :=
  [("debug", .bool s.debug), ("changed_exit_code", .int s.changedExitCode),
    ("unchanged_exit_code", .int s.unchangedExitCode), ("changed_git_add", .bool s.changedGitAdd),
    ("git_executable", .str s.gitExecutable), ("target", .str s.target), ("target_config", s.targetConfig.toValue),
    ("format", s.format.toValue), ("replace", .list (s.replace.map ReplaceRule.toValue))]

theorem stored_eq {s : Settings} (h : s.forced = []) : s.stored = .map s.storedFields := by
  rw [stored, toEntries, h]
  rfl

/-- Only the module and the config file are given. -/
def givenPlaces (module configFile : String) : List (String × Value) :=
  [("module_path", .str module), ("config_file", .str configFile)]

/-- The stored settings are read back; those for the command line are as they are given. -/
theorem unchecked_stored {s : Settings} (hs : s.HasChoices) (hfaults : s.faults = []) (hforced : s.forced = [])
    (module configFile : String) :
    unchecked (givenPlaces module configFile) (Datum.ofEntries s.storedFields) =
      .ok { s with dumpConfig := false, dumpOverwrite := false, modulePath := Path.ofText module, configFile } := by
  have hstored : namedEntries (entriesOver (givenPlaces module configFile) (Datum.ofEntries s.storedFields)) =
      .ok ((s.storedFields ++ givenPlaces module configFile).map fun e => (e.1, .ofValue e.2)) := rfl
  have hnames : ∀ e ∈ (s.storedFields ++ givenPlaces module configFile).map fun e => (e.1, Datum.ofValue e.2),
      e.1 ∈ fieldNames := by
    have hall : ∀ name ∈ ["debug", "changed_exit_code", "unchanged_exit_code", "changed_git_add", "git_executable",
        "target", "target_config", "format", "replace", "module_path", "config_file"], name ∈ fieldNames := by
      decide
    intro e he
    exact hall e.1 (List.mem_map_of_mem (f := Prod.fst) he)
  rw [unchecked, hstored, ok_bind, ofEntries_eq_ok]
  refine ⟨hnames, ?_⟩
  constructor
  case targetConfig => exact TargetSettings.ofDatum_toValue hs.insertPosition hs.outputFormat
  case format => exact FormatSettings.ofDatum_toValue hs.sortOrder
  case replace => exact list_ofDatum_toValue s.replace
  case faults => exact hfaults
  case forced => exact hforced
  all_goals rfl

end Settings

end ModuleDocs
