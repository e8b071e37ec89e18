import ModuleDocs.Settings.Value

/-!
# Forced settings

A single setting can be given a value after all checks have been made, also one that no check would
admit. Flags are taken as true or false, and texts are made of anything; where a value cannot be used at all,
the use of it fails.
-/
set_option autoImplicit false

namespace ModuleDocs

/-- Puts new faults, or none, in the place of those of some uses. -/
def Settings.refault (s : Settings) (uses : List Use) (faults : List (Use × Fault)) : Settings :=
  { s with faults := faults ++ s.faults.filter fun f => !uses.contains f.1 }

def floorOf : Double → Option Int
  | .finite negative m e =>
    let (num, den) := Double.scaled m 2 e
    some (Int.fdiv (if negative then -(num : Int) else num) den)
  | .infinite negative => some (if negative then -(Nat.pow 2 1024 : Nat) else (Nat.pow 2 1024 : Nat))
  | .notANumber => some (Nat.pow 2 1024 : Nat)

/-! ## Settings of the target -/

def Settings.forceTarget (s : Settings) (name : String) (v : Value) : Settings :=
  let t := s.targetConfig
  let set := fun (t : TargetSettings) => { s with targetConfig := t }
  match name, v with
  | "marker", v => set { t with marker := v.text }
  | "insert_position", .str x => set { t with insertPosition := .ofName x }
  | "insert_position", v => set { t with insertPosition := .other v.text }
  | "format", .str x => (set { t with format := .ofName x }).refault [.outputFormat] []
  | "format", .list _ | "format", .map _ => s.refault [.outputFormat] [(.outputFormat, .unusable)]
  | "format", v => (set { t with format := .other v.text }).refault [.outputFormat] []
  | "heading_level", .int n => (set { t with headingLevel := n }).refault [.headingLevel] []
  | "heading_level", .bool b => (set { t with headingLevel := if b then 1 else 0 }).refault [.headingLevel] []
  | "heading_level", _ => s.refault [.headingLevel] [(.headingLevel, .unusable)]
  | "heading", v => set { t with heading := v.text }
  | "empty_header", .str x => (set { t with emptyHeader := x }).refault [.emptyHeader] []
  | "empty_header", _ => s.refault [.emptyHeader] [(.emptyHeader, .incomplete)]
  | _, _ => s

/-! ## Settings of tables -/

def FormatSettings.forceFlag (f : FormatSettings) (name : String) (x : Bool) : FormatSettings :=
  match name with
  | "collapsible_sections" => { f with collapsibleSections := x }
  | "collapsible_long_values" => { f with collapsibleLongValues := x }
  | "collapsible_long_types" => { f with collapsibleLongTypes := x }
  | "collapsible_long_defaults" => { f with collapsibleLongDefaults := x }
  | "collapsible_long_description" => { f with collapsibleLongDescription := x }
  | "skip_auto" => { f with skipAuto := x }
  | "validation_remove" => { f with validationRemove := x }
  | "validation_separate" => { f with validationSeparate := x }
  | "remove_empty_columns" => { f with removeEmptyColumns := x }
  | "required_variables_first" => { f with requiredVariablesFirst := x }
  | "add_resource_identifier" => { f with addResourceIdentifier := x }
  | "add_output_value" => { f with addOutputValue := x }
  | "include_resources" => { f with includeResources := x }
  | "include_locals" => { f with includeLocals := x }
  | "include_variables" => { f with includeVariables := x }
  | "include_outputs" => { f with includeOutputs := x }
  | "include_validations" => { f with includeValidations := x }
  | _ => f

def thresholdOf : Value → Option Int
  | .int n => some n
  | .bool b => some (if b then 1 else 0)
  | .float d => floorOf d
  | _ => none

def Settings.forceFormat (s : Settings) (name : String) (v : Value) : Settings :=
  let f := s.format
  match name, v with
  | "collapsible_long_threshold", v =>
    match thresholdOf v with
    | some n => { s with format := { f with collapsibleLongThreshold := n } }.refault [.threshold] []
    | none => s.refault [.threshold] [(.threshold, .unusable)]
  | "sort_order", .str x => { s with format := { f with sortOrder := .ofName x } }
  | "sort_order", v => { s with format := { f with sortOrder := .other v.text } }
  | name, v => { s with format := f.forceFlag name v.isTrue }

/-! ## Other settings -/

def rulesFault? : Value → Option Fault
  | .list [] | .map [] | .str "" => none
  | .list _ | .map _ | .str _ => some .incomplete
  | _ => some .unusable

def Settings.forceTop (s : Settings) (name : String) (v : Value) : Settings :=
  match name, v with
  | "dump_config", v => { s with dumpConfig := v.isTrue }
  | "dump_overwrite", v => { s with dumpOverwrite := v.isTrue }
  | "debug", v => { s with debug := v.isTrue }
  | "changed_git_add", v => { s with changedGitAdd := v.isTrue }
  | "changed_exit_code", .int n => { s with changedExitCode := n }
  | "unchanged_exit_code", .int n => { s with unchangedExitCode := n }
  | "git_executable", .str x => { s with gitExecutable := x }
  | "config_file", .str x => { s with configFile := x }.refault [.configFile] []
  | "config_file", _ => s.refault [.configFile] [(.configFile, .unusable)]
  | "target", .str x => { s with target := x }.refault [.target] []
  | "target", _ => s.refault [.target] [(.target, .unusable)]
  | "module_path", v =>
    let uses := [Use.moduleFiles, .modulePath, .moduleRoot]
    let faults := [(Use.moduleFiles, Fault.incomplete), (.modulePath, .unusable)]
    match v with
    | .str x => { s with modulePath := .ofText x }.refault uses faults
    | _ => s.refault uses (faults ++ [(.moduleRoot, .unusable)])
  | "replace", v =>
    match rulesFault? v with
    | some fault => s.refault [.rules] [(.rules, fault)]
    | none => { s with replace := [] }.refault [.rules] []
  | "target_config", _ =>
    let uses := [Use.marker, .outputFormat, .headingLevel, .emptyHeader]
    s.refault uses (uses.map fun use => (use, .incomplete))
  | "format", _ =>
    let uses := [Use.tableFormat, .threshold]
    s.refault uses (uses.map fun use => (use, .incomplete))
  | _, _ => s

/-- Remembers a value that was forced, if there is such a setting. -/
def Settings.remember (s : Settings) (name : String) (v : Value) : Settings :=
  let entries := s.checkedEntries
  let known := match name.splitOn "." with
    | [group, name] => ((entries.lookup group).bind (·.get? name)).isSome
    | _ => (entries.lookup name).isSome
  if known then { s with forced := s.forced ++ [(name, v)] } else s

/-- Sets one setting by its name, with the group in front of a point. A setting that is no group has no parts,
and the rules with their variables filled in cannot be set. -/
def Settings.force (s : Settings) (name : String) (v : Value) : Except Error Settings :=
  let group? := fun (group : String) => (s.forced.lookup group).isNone
  match name.splitOn "." with
  | ["target_config", part] =>
    if group? "target_config" then .ok ((s.forceTarget part v).remember name v) else .error .incompleteSetting
  | ["format", part] =>
    if group? "format" then .ok ((s.forceFormat part v).remember name v) else .error .incompleteSetting
  | ["replace_formatted"] => .error .incompleteSetting
  | [name] => .ok ((s.forceTop name v).remember name v)
  | _ => .error .incompleteSetting

end ModuleDocs
