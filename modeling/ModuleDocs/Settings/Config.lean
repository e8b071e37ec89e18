import ModuleDocs.Settings.Value
import ModuleDocs.Text.Search
import ModuleDocs.Workspace
import ModuleDocs.Yaml.Reader
import ModuleDocs.Yaml.Writer

/-!
# Config files

Settings given on the command line come before those of a YAML config file, and these before the
defaults. The settings can be written back to the config file.
-/
set_option autoImplicit false

namespace ModuleDocs

open Yaml

/-! ## Checking paths -/

/-- Whether a path is written as relative to the current directory, by a point or two and a slash. -/
def isDotted (text : String) : Bool := beginsWith text "./" || beginsWith text "../"

/-- The path of the config file: literal if absolute or dotted, else below the module. -/
def checkConfigFile (ws : Workspace) (modulePath : Path) (value : String) : Except Error String := do
  let path := Path.ofText value
  if ws.isDirectory path then .error (.configIsDirectory value)
  if !ws.exists? path.parent then .error (.configParentMissing value)
  if path.isAbsolute || isDotted value then return value
  else return (Path.ofLocation (ws.resolve (modulePath.join path))).text

def checkGitExecutable (ws : Workspace) (value : String) : Except Error String := do
  let path := Path.ofText value
  if !ws.exists? path then .error (.gitMissing value)
  if !ws.isFile path then .error (.gitNotFile value)
  if !ws.runs value then .error (.gitNotExecutable value)
  return value

/-! ## Reading -/

/-- The content of a config file; one without content has no entries. -/
def readConfig (ws : Workspace) (path : Path) : Except Error Datum := do
  if !ws.exists? path then .error (.configMissing path.text)
  let d ← Datum.ofYaml (← ws.read path)
  return if d.isFilled then d else .map []

def pairOf : Datum → Except Error (Datum × Datum)
  | .list [key, value] => if key.isSingle then .ok (key, value) else .error .badKey
  | .set [key, value] | .map [(key, _), (value, _)] => .ok (key, value)
  | .bytes [key, value] => .ok (.int key, .int value)
  | .str s =>
    match s.toList with
    | [key, value] => .ok (.str (String.singleton key), .str (String.singleton value))
    | _ => .error .notAPair
  | .list _ | .set _ | .map _ | .bytes _ | .enclosing => .error .notAPair
  | _ => .error .notEntries

/-- The entries of a datum: those of a map, or pairs. -/
def entriesOf : Datum → Except Error (List (Datum × Datum))
  | .map entries => .ok entries
  | .list items | .set items => do
    return (← items.mapM pairOf).foldl (fun found e => Datum.setEntry e.1 e.2 found) []
  | .str _ | .enclosing => .error .notAPair
  | _ => .error .notEntries

def namedEntries (entries : List (Datum × Datum)) : Except Error (List (String × Datum)) :=
  entries.mapM fun e =>
    match e.1 with
    | .str name => .ok (name, e.2)
    | _ => .error .keyNotText

def configSourceName (path : Path) : String :=
  s!"LateYamlConfigSettingsSource(yaml_file={path.text})"

mutual

/-- A value over a datum: maps are merged key by key, anything else is replaced. -/
def Value.over : Value → Datum → Datum
  | .map high, .map low => .map (entriesOver high low)
  | high, _ => .ofValue high

def entriesOver : List (String × Value) → List (Datum × Datum) → List (Datum × Datum)
  | [], low => low
  | (key, v) :: more, low =>
    let d := match Datum.entry? key low with
      | some old => v.over old
      | none => .ofValue v
    entriesOver more (Datum.setEntry (.str key) d low)

end

/-- Checks the two paths of the settings that must lead somewhere. A failing check makes the settings invalid. -/
def Settings.checkPaths (s : Settings) (ws : Workspace) : Except Error Settings :=
  match checkConfigFile ws s.modulePath s.configFile, checkGitExecutable ws s.gitExecutable with
  | .ok configFile, .ok _ => .ok { s with configFile }
  | _, _ => .error .invalid

/-- Builds settings from those given and the config file. -/
def Settings.load (ws : Workspace) (given : List (String × Value)) : Except Error Settings := do
  let path ← match given.lookup "config_file" with
    | none => pure defaultConfigFile
    | some (.str s) => pure s
    | some _ => .error .unusableSetting
  -- The file is read before any check: the checks are about the settings that it helps to make.
  let path := Path.ofText path
  let stored ← if ws.isFile path then readConfig ws path else pure (.map [])
  let s ← Settings.ofEntries (← namedEntries (entriesOver given (← entriesOf stored)))
  s.checkPaths ws

/-! ## Writing -/

def commandLineOnly : List String := ["dump_config", "dump_overwrite", "config_file", "module_path"]

def Settings.stored (s : Settings) : Value :=
  .map (s.toEntries.filter fun e => !commandLineOnly.contains e.1)

/-- Writes the config file, if asked to. An existing one is kept unless it may be overwritten. -/
def Settings.dump (s : Settings) (ws : Workspace) : Except Error Workspace := do
  -- A path that cannot be used fails here even if nothing is to be written.
  s.ensure .configFile
  let path := Path.ofText s.configFile
  if !s.dumpConfig then return ws
  if ws.exists? path && !s.dumpOverwrite then .error (.configExists s.configFile)
  let loc ← ws.files.locate ws.cwd path
  return { ws with files := ← (ws.files.write loc s.stored.toYaml).mapError (·.error) }

end ModuleDocs
