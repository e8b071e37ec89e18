import ModuleDocs.Run
import ModuleDocs.Settings.Arguments
import ModuleDocs.Repository.Listing

/-!
# The command line

Takes a picture of the directories that a run can see, runs the program on it, and writes back what has
changed. The parse result of a file `x.tf` is taken from a file `x.tf.json` beside it.
-/
set_option autoImplicit false

namespace ModuleDocs.CommandLine

/-! ## Taking a picture -/

/-- The names in a directory, with whether each is a directory itself. -/
def listing (dir : String) : IO (List (String × Bool)) :=
  try
    let entries ← ((← IO.currentDir) / dir).readDir
    entries.toList.mapM fun e => do return (e.fileName, ← e.path.isDir)
  catch _ => return []

def textAt? (path : String) : IO (Option String) :=
  try
    return some (← IO.FS.readFile path)
  catch _ => return none

def locationText (loc : Location) : String := "/" ++ "/".intercalate loc

def addDirectory (tree : FileTree) (loc : Location) : IO FileTree := do
  let entries ← listing (locationText loc)
  let tree := (tree.makeDirectories [] loc).toOption.getD tree
  entries.foldlM (fun tree e => do
    if e.2 then return tree.put (loc ++ [e.1]) .directory
    match ← textAt? (locationText (loc ++ [e.1])) with
    | some text => return tree.put (loc ++ [e.1]) (.file text false)
    | none => return tree) tree

def repositoriesAbove (loc : Location) : IO (List Repository) := do
  let found ← (Workspace.ancestors loc).filterM fun dir => do
    return (← listing (locationText dir)).contains (".git", true)
  return found.map fun root => { root }

def directories (cwd : Location) (entries : List (String × Value)) : List Location :=
  let given := fun (name : String) =>
    match entries.lookup name with
    | some (.str s) => (Path.ofText s).resolve cwd
    | _ => cwd
  let module := given "module_path"
  let target :=
    match entries.lookup "target" with
    | some (.str s) =>
      let path := Path.ofText s
      if path.isAbsolute || isDotted s then [(path.resolve cwd).dropLast]
      else [(path.resolve module).dropLast]
    | _ => []
  let config :=
    match entries.lookup "config_file" with
    | some (.str s) => [((Path.ofText s).resolve cwd).dropLast]
    | _ => []
  ([cwd, module] ++ target ++ config).eraseDups

def picture (entries : List (String × Value)) : IO Workspace := do
  let cwd := (Path.ofText (toString (← IO.currentDir))).resolve []
  let found := directories cwd entries
  let files ← found.foldlM addDirectory {}
  let git : Location :=
    match entries.lookup "git_executable" with
    | some (.str s) => (Path.ofText s).resolve cwd
    | _ => ["usr", "bin", "git"]
  let present := (← listing (locationText git.dropLast)).contains (git.getLastD "", false)
  let files :=
    if present then ((files.makeDirectories [] git.dropLast).toOption.getD files).put git (.file "" true)
    else files
  let repositories ← found.flatMapM repositoriesAbove
  return { files, cwd, searchPath := [git.dropLast], repositories := repositories.eraseDups }

def parserFor (files : FileTree) : Hcl.Parser := fun text =>
  let sources := files.entries.filter fun e =>
    match e.2 with
    | .file source _ => String.ofList (Text.unifyNewlines source.toList) = text
    | .directory => false
  let parsed := sources.findSome? fun e =>
    match files.at? (e.1.dropLast ++ [e.1.getLastD "" ++ ".json"]) with
    | some (.file json _) => Value.ofJson? json
    | _ => none
  match parsed with
  | some v => .ok v
  | none => .error .unparsed

/-! ## Writing back -/

def writeBack (before after : FileTree) : IO Unit :=
  after.entries.forM fun e => do
    if before.at? e.1 ≠ some e.2 then
      match e.2 with
      | .directory => IO.FS.createDirAll (locationText e.1)
      | .file text _ => IO.FS.writeFile (locationText e.1) text

def listStaged (ws : Workspace) : IO Unit :=
  ws.repositories.forM fun r => r.stagedNames.forM fun name => IO.eprintln ("staged: " ++ name)

def exitCode (n : Int) : UInt32 := UInt32.ofNat (n % 256).toNat

def failure (e : Error) : String := e.message?.getD (toString (repr e))

def run (entries : List (String × Value)) : IO UInt32 := do
  let ws ← picture entries
  match Settings.load ws entries with
  | .error e =>
    IO.eprintln (failure e)
    return 1
  | .ok settings =>
    let outcome := runOnce ws (parserFor ws.files) settings
    writeBack ws.files outcome.ws.files
    listStaged outcome.ws
    IO.print outcome.stdout
    IO.eprint outcome.stderr
    match outcome.verdict with
    | .ok verdict => return exitCode (settings.exitCode verdict)
    | .error e =>
      IO.eprintln (failure e)
      return 1

end ModuleDocs.CommandLine

def main (args : List String) : IO UInt32 :=
  match ModuleDocs.readArguments args with
  | .ok entries => ModuleDocs.CommandLine.run entries
  | .error argument => do
    IO.eprintln ("unknown argument: " ++ argument)
    return 2
