import ModuleDocs.Settings.Basic
import ModuleDocs.Yaml.Typed

/-!
# Settings as values

Settings are read from a map of names to data, where each datum must have exactly the type of its field.
Names that are not fields are ignored in the groups and refused at the top.
-/
set_option autoImplicit false

namespace ModuleDocs

open Yaml

/-! ## Reading fields -/

open Yaml.Typed in
def TextColumn.ofDatum (d : Datum) : Except Error TextColumn := do
  match TextColumn.ofName? (← text d) with
  | some column => return column
  | none => .error .invalid

open Yaml.Typed in
def ReplaceRule.ofDatum (d : Datum) : Except Error ReplaceRule := do
  let entries ← map d
  return {
    pattern := ← required entries "pattern" text
    replace := ← required entries "replace" text
    vars := ← field entries "vars" (fun d => do
      (← map d).mapM fun e => do return (← text e.1, ← text e.2)) []
    column := ← required entries "column" TextColumn.ofDatum }

def choice {α : Type} (name : String) (result : α) (d : Datum) : Except Error α :=
  match d with
  | .str s => if s = name then .ok result else .error .invalid
  | _ => .error .invalid

open Yaml.Typed in
def TargetSettings.ofDatum (d : Datum) : Except Error TargetSettings := do
  let entries ← map d
  let usual : TargetSettings := {}
  return {
    marker := ← field entries "marker" text usual.marker
    insertPosition := ← field entries "insert_position" (choice "bottom" .bottom) usual.insertPosition
    format := ← field entries "format" (choice "markdown" .markdown) usual.format
    headingLevel := ← field entries "heading_level" int usual.headingLevel
    heading := ← field entries "heading" text usual.heading
    emptyHeader := ← field entries "empty_header" text usual.emptyHeader }

open Yaml.Typed in
def FormatSettings.ofDatum (d : Datum) : Except Error FormatSettings := do
  let entries ← map d
  let usual : FormatSettings := {}
  return {
    collapsibleSections := ← field entries "collapsible_sections" bool usual.collapsibleSections
    collapsibleLongValues := ← field entries "collapsible_long_values" bool usual.collapsibleLongValues
    collapsibleLongTypes := ← field entries "collapsible_long_types" bool usual.collapsibleLongTypes
    collapsibleLongDefaults := ← field entries "collapsible_long_defaults" bool usual.collapsibleLongDefaults
    collapsibleLongDescription :=
      ← field entries "collapsible_long_description" bool usual.collapsibleLongDescription
    collapsibleLongThreshold := ← field entries "collapsible_long_threshold" int usual.collapsibleLongThreshold
    skipAuto := ← field entries "skip_auto" bool usual.skipAuto
    sortOrder := ← field entries "sort_order" (choice "alpha-asc" .ascending) usual.sortOrder
    validationRemove := ← field entries "validation_remove" bool usual.validationRemove
    validationSeparate := ← field entries "validation_separate" bool usual.validationSeparate
    removeEmptyColumns := ← field entries "remove_empty_columns" bool usual.removeEmptyColumns
    requiredVariablesFirst := ← field entries "required_variables_first" bool usual.requiredVariablesFirst
    addResourceIdentifier := ← field entries "add_resource_identifier" bool usual.addResourceIdentifier
    addOutputValue := ← field entries "add_output_value" bool usual.addOutputValue
    includeResources := ← field entries "include_resources" bool usual.includeResources
    includeLocals := ← field entries "include_locals" bool usual.includeLocals
    includeVariables := ← field entries "include_variables" bool usual.includeVariables
    includeOutputs := ← field entries "include_outputs" bool usual.includeOutputs
    includeValidations := ← field entries "include_validations" bool usual.includeValidations }

def Settings.fieldNames : List String :=
  ["dump_config", "dump_overwrite", "module_path", "config_file", "debug", "changed_exit_code",
    "unchanged_exit_code", "changed_git_add", "git_executable", "target", "target_config", "format",
    "replace"]

open Yaml.Typed in
/-- Reads settings, before the paths in them are looked at. -/
def Settings.ofEntries (named : List (String × Datum)) : Except Error Settings := do
  if named.any fun e => !Settings.fieldNames.contains e.1 then .error .invalid
  let entries := named.map fun e => (Datum.str e.1, e.2)
  let usual : Settings := {}
  return {
    dumpConfig := ← field entries "dump_config" bool usual.dumpConfig
    dumpOverwrite := ← field entries "dump_overwrite" bool usual.dumpOverwrite
    modulePath := ← field entries "module_path" (fun d => Path.ofText <$> text d) usual.modulePath
    configFile := ← field entries "config_file" text usual.configFile
    debug := ← field entries "debug" bool usual.debug
    changedExitCode := ← field entries "changed_exit_code" int usual.changedExitCode
    unchangedExitCode := ← field entries "unchanged_exit_code" int usual.unchangedExitCode
    changedGitAdd := ← field entries "changed_git_add" bool usual.changedGitAdd
    gitExecutable := ← field entries "git_executable" text usual.gitExecutable
    target := ← field entries "target" text usual.target
    targetConfig := ← field entries "target_config" TargetSettings.ofDatum usual.targetConfig
    format := ← field entries "format" FormatSettings.ofDatum usual.format
    replace := ← field entries "replace" (list ReplaceRule.ofDatum) usual.replace }

/-! ## Writing fields -/

def ReplaceRule.toValue (r : ReplaceRule) : Value :=
  .map [("pattern", .str r.pattern), ("replace", .str r.replace),
    ("vars", .map (r.vars.map fun e => (e.1, .str e.2))), ("column", .str r.column.name)]

def TargetSettings.toValue (t : TargetSettings) : Value :=
  .map [("marker", .str t.marker), ("insert_position", .str t.insertPosition.name),
    ("format", .str t.format.name), ("heading_level", .int t.headingLevel), ("heading", .str t.heading),
    ("empty_header", .str t.emptyHeader)]

def FormatSettings.toValue (f : FormatSettings) : Value :=
  .map [("collapsible_sections", .bool f.collapsibleSections),
    ("collapsible_long_values", .bool f.collapsibleLongValues),
    ("collapsible_long_types", .bool f.collapsibleLongTypes),
    ("collapsible_long_defaults", .bool f.collapsibleLongDefaults),
    ("collapsible_long_description", .bool f.collapsibleLongDescription),
    ("collapsible_long_threshold", .int f.collapsibleLongThreshold),
    ("skip_auto", .bool f.skipAuto), ("sort_order", .str f.sortOrder.name),
    ("validation_remove", .bool f.validationRemove), ("validation_separate", .bool f.validationSeparate),
    ("remove_empty_columns", .bool f.removeEmptyColumns),
    ("required_variables_first", .bool f.requiredVariablesFirst),
    ("add_resource_identifier", .bool f.addResourceIdentifier),
    ("add_output_value", .bool f.addOutputValue), ("include_resources", .bool f.includeResources),
    ("include_locals", .bool f.includeLocals), ("include_variables", .bool f.includeVariables),
    ("include_outputs", .bool f.includeOutputs), ("include_validations", .bool f.includeValidations)]

/-- The settings by name, with their checked values. -/
def Settings.checkedEntries (s : Settings) : List (String × Value) :=
  [("dump_config", .bool s.dumpConfig), ("dump_overwrite", .bool s.dumpOverwrite),
    ("module_path", .str s.modulePath.text), ("config_file", .str s.configFile), ("debug", .bool s.debug),
    ("changed_exit_code", .int s.changedExitCode), ("unchanged_exit_code", .int s.unchangedExitCode),
    ("changed_git_add", .bool s.changedGitAdd), ("git_executable", .str s.gitExecutable),
    ("target", .str s.target), ("target_config", s.targetConfig.toValue), ("format", s.format.toValue),
    ("replace", .list (s.replace.map ReplaceRule.toValue))]

/-- Entries with one replaced by name, where the name of a group stands before a point. -/
def replaceEntry (name : String) (v : Value) (entries : List (String × Value)) : List (String × Value) :=
  match name.splitOn "." with
  | [group, name] =>
    match entries.lookup group with
    | some (.map inner) => Value.setEntry group (.map (Value.setEntry name v inner)) entries
    | _ => entries
  | _ => Value.setEntry name v entries

def Settings.toEntries (s : Settings) : List (String × Value) :=
  s.forced.foldl (fun entries e => replaceEntry e.1 e.2 entries) s.checkedEntries

end ModuleDocs
