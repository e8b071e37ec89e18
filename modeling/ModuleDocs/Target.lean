import ModuleDocs.Diff.Unified
import ModuleDocs.Region
import ModuleDocs.Repository.Stage
import ModuleDocs.Settings.Config
import ModuleDocs.Template
import ModuleDocs.Text.Blank

/-!
# Targets

The file that the generated document is written to. It is made from a template if it is missing. Some names
stand for the standard streams; the document is printed there, and there is no file.
-/
set_option autoImplicit false

namespace ModuleDocs

/-! ## Names of streams -/

def isStdout (target : String) : Bool :=
  ["-", "stdout", "/dev/stdout", "/dev/fd/1", "/proc/self/fd/1"].contains target

def isStderr (target : String) : Bool :=
  ["stderr", "/dev/stderr", "/dev/fd/2", "/proc/self/fd/2"].contains target

/-! ## Open targets -/

/-- What is known of the text of a target before it was written. -/
inductive Before where
  | unread
  | created
  | text (s : String)
deriving Repr, DecidableEq

/-- A target that a document is to be written to. -/
structure Target where
  location : Location
  document : String
  changed : Bool := false
  before : Before := .unread
  after : Option String := none
deriving Repr, DecidableEq

/-- What opening a target does: the workspace after it, what is printed, and the target or the failure. -/
structure Opened where
  ws : Workspace
  stdout : String := ""
  stderr : String := ""
  result : Except Error Target

/-- The location of the target: a dotted path is seen from the current directory, any other relative one from
the module. -/
def targetLocation (settings : Settings) (ws : Workspace) : Except Error Location := do
  settings.ensure .target
  let path := Path.ofText settings.target
  if path.isAbsolute || isDotted settings.target then return ws.resolve path
  else return ws.resolve (← settings.inModule path)

def Settings.headerText (settings : Settings) (loc : Location) : Except Error String := do
  settings.ensure .emptyHeader
  fillTemplate [("module", (Path.ofLocation loc).stem)] settings.targetConfig.emptyHeader

/-- Makes the file of a missing target. It is there before its header is filled in, and stays if that fails. -/
def makeTarget (settings : Settings) (files : FileTree) (loc : Location) (disk : Disk) :
    Except Stopped FileTree := do
  let files ← files.makeDirectories [] loc.dropLast disk
  let files ← files.touch loc disk
  match settings.headerText loc with
  | .error e => .error ⟨e, files⟩
  | .ok header => files.write loc header disk

def createTarget (settings : Settings) (ws : Workspace) (target : Target) (disk : Disk) : Opened :=
  match makeTarget settings ws.files target.location disk with
  | .error stop => { ws := { ws with files := stop.tree }, result := .error stop.error }
  | .ok files => { ws := { ws with files }, result := .ok { target with changed := true, before := .created } }

def openTarget (settings : Settings) (ws : Workspace) (document : String) (disk : Disk := {}) : Opened :=
  match settings.ensure .target with
  | .error e => { ws, result := .error e }
  | .ok () =>
    if isStdout settings.target then
      { ws, stdout := document ++ "\n", result := .error .targetIsStdout }
    else if isStderr settings.target then
      { ws, stderr := document ++ "\n", result := .error .targetIsStderr }
    else
      match targetLocation settings ws with
      | .error e => { ws, result := .error e }
      | .ok location =>
        let target : Target := { location, document }
        match ws.files.at? location with
        | some _ => { ws, result := .ok target }
        | none => createTarget settings ws target disk

/-! ## Writing -/

def updatedText (t : TargetSettings) (text document : String) : Except Error String := do
  return trimmed (unlines (← insertRegion t (linesOf text) (linesOf document))) ++ "\n"

/-- What writing does: the workspace and the target after it, and whether it failed. -/
structure Written where
  ws : Workspace
  target : Target
  result : Except Error Unit

/-- Writes the document into the region of the target, if that changes it. -/
def Target.write (target : Target) (settings : Settings) (ws : Workspace) (disk : Disk := {}) : Written :=
  match ws.read (Path.ofLocation target.location) with
  | .error e => { ws, target, result := .error e }
  | .ok text =>
    let target := { target with before := .text text }
    -- A marker that cannot be used is found only once the target has been read.
    match settings.ensure .marker >>= fun _ => updatedText settings.targetConfig text target.document with
    | .error e => { ws, target, result := .error e }
    | .ok updated =>
      let target := { target with changed := text ≠ updated, after := some updated }
      if text = updated then { ws, target, result := .ok () }
      else
        match ws.files.write target.location updated disk with
        | .error stop => { ws := { ws with files := stop.tree }, target, result := .error stop.error }
        | .ok files => { ws := { ws with files }, target, result := .ok () }

/-! ## Reporting -/

/-- What is printed about a change of the target: with debugging on, the lines that differ. A target that has
neither been made nor been read has nothing to compare with. -/
def Target.report (target : Target) (settings : Settings) : Except Error String :=
  match target.before with
  | .unread => .error .nothingToCompare
  | .created => .ok ""
  | .text before =>
    let after := target.after.getD ""
    if target.changed && before ≠ "" && after ≠ "" && settings.debug then do
      settings.ensure .target
      settings.ensure .modulePath
      return "\n    ".intercalate (Diff.unified (linesOf before) (linesOf after)) ++ "\n"
    else .ok ""

def Target.stage (target : Target) (ws : Workspace) : Except Error Workspace := ws.stage target.location

end ModuleDocs
