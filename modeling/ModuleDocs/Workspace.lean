import ModuleDocs.FileTree

/-!
# Workspaces

What a run works on: a file tree, the current directory, the directories in which programs are looked
for, and the version-control repositories with their staged files.
-/
set_option autoImplicit false

namespace ModuleDocs

/-- A repository at a directory. A bare one has no working files. -/
structure Repository where
  root : Location
  bare : Bool := false
  staged : List Location := []
deriving Repr, DecidableEq

structure Workspace where
  files : FileTree := {}
  cwd : Location := []
  searchPath : List Location := []
  repositories : List Repository := []
deriving Repr, DecidableEq

namespace Workspace

def resolve (ws : Workspace) (p : Path) : Location := p.resolve ws.cwd

def exists? (ws : Workspace) (p : Path) : Bool := ws.files.exists? ws.cwd p

def isDirectory (ws : Workspace) (p : Path) : Bool := ws.files.isDirectory ws.cwd p

def isFile (ws : Workspace) (p : Path) : Bool := ws.files.isFile ws.cwd p

def read (ws : Workspace) (p : Path) : Except Error String := ws.files.read ws.cwd p

/-- Whether a command can be run: a name with a slash is a path, any other is looked for. -/
def runs (ws : Workspace) (command : String) : Bool :=
  if command.contains '/' then ws.files.isExecutable ws.cwd (Path.ofText command)
  else command ≠ "" && ws.searchPath.any fun dir =>
    ws.files.isExecutable ws.cwd (Path.ofLocation (dir ++ [command]))

/-! ## Repositories -/

/-- The locations at and above a location, nearest first. -/
def ancestors (loc : Location) : List Location :=
  (List.range (loc.length + 1)).map fun n => loc.take (loc.length - n)

def repositoryOf? (ws : Workspace) (loc : Location) : Option Repository :=
  (ancestors loc).findSome? fun dir => ws.repositories.find? (·.root = dir)

end Workspace

end ModuleDocs
