import ModuleDocs.Error
import ModuleDocs.Path
import ModuleDocs.Value.Basic

/-!
# Settings

What a user can choose: where the module and the target are, how the target is marked and laid out,
what the tables show, and which texts are replaced in which columns.
-/
set_option autoImplicit false

namespace ModuleDocs

/-! ## Choices -/

/-- The form of the generated document. Only Markdown can be chosen; another name can be forced. -/
inductive OutputFormat where
  | markdown
  | other (name : String)
deriving Repr, DecidableEq

/-- Where a block goes in a target that has none yet. -/
inductive InsertPosition where
  | bottom
  | other (name : String)
deriving Repr, DecidableEq

inductive SortOrder where
  | ascending
  | other (name : String)
deriving Repr, DecidableEq

def OutputFormat.ofName (name : String) : OutputFormat :=
  if name = "markdown" then .markdown else .other name

def OutputFormat.name : OutputFormat → String
  | .markdown => "markdown"
  | .other name => name

def InsertPosition.ofName (name : String) : InsertPosition :=
  if name = "bottom" then .bottom else .other name

def InsertPosition.name : InsertPosition → String
  | .bottom => "bottom"
  | .other name => name

def SortOrder.ofName (name : String) : SortOrder :=
  if name = "alpha-asc" then .ascending else .other name

def SortOrder.name : SortOrder → String
  | .ascending => "alpha-asc"
  | .other name => name

/-! ## Replacements -/

/-- The columns in which texts can be replaced. -/
inductive TextColumn where
  | description
  | type
  | default
  | validation
  | value
  | precondition
  | postcondition
deriving Repr, DecidableEq

def TextColumn.all : List TextColumn :=
  [.description, .type, .default, .validation, .value, .precondition, .postcondition]

def TextColumn.name : TextColumn → String
  | .description => "description"
  | .type => "type"
  | .default => "default"
  | .validation => "validation"
  | .value => "value"
  | .precondition => "precondition"
  | .postcondition => "postcondition"

def TextColumn.ofName? (name : String) : Option TextColumn :=
  TextColumn.all.find? (·.name = name)

/-- A pattern to search for in a column, and what to put in its place. Both are templates, filled in
with the rule's own variables. -/
structure ReplaceRule where
  pattern : String
  replace : String
  vars : List (String × String) := []
  column : TextColumn
deriving Repr, DecidableEq

/-! ## Groups of settings -/

def defaultHeader : String :=
  "# \x7bmodule\x7d\n\n## Description\n\n[tbd]\n\n## Usage\n\n[tbd]\n\n## Examples\n\n[tbd]\n\n" ++
    "## Notes\n\n[tbd]\n\n"

structure TargetSettings where
  marker : String := "TOFU_DOCS"
  insertPosition : InsertPosition := .bottom
  format : OutputFormat := .markdown
  headingLevel : Int := 2
  heading : String := "API Documentation"
  emptyHeader : String := defaultHeader
deriving Repr, DecidableEq

structure FormatSettings where
  collapsibleSections : Bool := true
  collapsibleLongValues : Bool := true
  collapsibleLongTypes : Bool := true
  collapsibleLongDefaults : Bool := true
  collapsibleLongDescription : Bool := true
  collapsibleLongThreshold : Int := 25
  skipAuto : Bool := true
  sortOrder : SortOrder := .ascending
  validationRemove : Bool := false
  validationSeparate : Bool := true
  removeEmptyColumns : Bool := true
  requiredVariablesFirst : Bool := true
  addResourceIdentifier : Bool := true
  addOutputValue : Bool := true
  includeResources : Bool := true
  includeLocals : Bool := true
  includeVariables : Bool := true
  includeOutputs : Bool := true
  includeValidations : Bool := true
deriving Repr, DecidableEq

/-! ## Defaults for replacements -/

/-- A reference in back quotes: a repository, and after a point one of its variables. -/
def referencePattern : String := "`([^`.]+)(?:\\.([^`]+))?`"

def referenceLink : String :=
  "[\\1](https://github.com/\x7bnamespace\x7d\\1/README.md#user-content-\\2)"

def defaultRules : List ReplaceRule :=
  [{ pattern := "repo " ++ referencePattern
     replace := referenceLink
     vars := [("namespace", "globaldatanet/")]
     column := .description },
   { pattern := "module " ++ referencePattern
     replace := referenceLink
     vars := [("namespace", "globaldatanet/landing-zone-")]
     column := .description },
   { pattern := "(?:optional\\()?any(:?\\))?\\s+#\\s+passthrough to repo " ++ referencePattern
     replace := "See " ++ referenceLink
     vars := [("namespace", "globaldatanet/")]
     column := .type },
   { pattern := "(?:optional\\()?any(?:\\))?\\s+#\\s+passthrough to module " ++ referencePattern
     replace := "See " ++ referenceLink
     vars := [("namespace", "globaldatanet/landing-zone-")]
     column := .type }]

/-! ## All settings -/

/-- What settings are used for, where a value that was never checked can fail. -/
inductive Use where
  /-- The files of the module are listed. -/
  | moduleFiles
  /-- A path is taken to be below the module. -/
  | modulePath
  /-- A path is seen from the module. -/
  | moduleRoot
  | configFile
  | target
  /-- What tables show is asked for. -/
  | tableFormat
  | threshold
  | rules
  | outputFormat
  | headingLevel
  | emptyHeader
  | marker
deriving Repr, DecidableEq

/-- What goes wrong where a value that was never checked is used. -/
inductive Fault where
  | unusable
  | incomplete
deriving Repr, DecidableEq

def Fault.error : Fault → Error
  | .unusable => .unusableSetting
  | .incomplete => .incompleteSetting

def defaultConfigFile : String := ".tofu-docs.yml"

def defaultTarget : String := "README.md"

structure Settings where
  dumpConfig : Bool := false
  dumpOverwrite : Bool := false
  modulePath : Path := {}
  configFile : String := defaultConfigFile
  debug : Bool := false
  changedExitCode : Int := 0
  unchangedExitCode : Int := 0
  changedGitAdd : Bool := false
  gitExecutable : String := "/usr/bin/git"
  target : String := defaultTarget
  targetConfig : TargetSettings := {}
  format : FormatSettings := {}
  replace : List ReplaceRule := defaultRules
  faults : List (Use × Fault) := []
  /-- The values that were never checked, by name. -/
  forced : List (String × Value) := []
deriving Repr

namespace Settings

/-- Settings of which every value has been checked. -/
def IsChecked (s : Settings) : Prop := s.faults = []

/-- Fails if a value that was never checked cannot be used so. -/
def ensure (s : Settings) (use : Use) : Except Error Unit :=
  match s.faults.lookup use with
  | some fault => .error fault.error
  | none => .ok ()

theorem ensure_of_isChecked {s : Settings} (h : s.IsChecked) (use : Use) : s.ensure use = .ok () := by
  simp [ensure, show s.faults = [] from h]

def inModule (s : Settings) (path : Path) : Except Error Path := do
  s.ensure .modulePath
  return s.modulePath.join path

end Settings

end ModuleDocs
