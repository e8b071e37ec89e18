import ModuleDocs.Error
import ModuleDocs.Path
import ModuleDocs.Text.Lines

/-!
# File trees

A tree of directories and text files, as a list of entries by location; the root is a directory that is
always there. Paths are looked up name by name, so that a double point after a missing name finds
nothing, and nothing is below a file. The disk may refuse a change, or break it off; what was done before
is not taken back.
-/
set_option autoImplicit false

namespace ModuleDocs

inductive Entry where
  | directory
  | file (text : String) (executable : Bool)
deriving Repr, DecidableEq

structure FileTree where
  entries : List (Location × Entry) := []
deriving Repr, DecidableEq

namespace FileTree

/-! ## Looking up -/

def at? (tree : FileTree) (loc : Location) : Option Entry :=
  if loc.isEmpty then some .directory else tree.entries.lookup loc

/-- Follows names from a location, each of which but the last must be that of a directory. -/
def walk (tree : FileTree) (loc : Location) : List String → Except Error (Location × Entry)
  | [] =>
    match tree.at? loc with
    | some entry => .ok (loc, entry)
    | none => .error .fileNotFound
  | name :: more =>
    match tree.at? loc with
    | none => .error .fileNotFound
    | some (.file ..) => .error .notDirectory
    | some .directory => walk tree (if name = ".." then loc.dropLast else loc ++ [name]) more

def find (tree : FileTree) (cwd : Location) (p : Path) : Except Error (Location × Entry) :=
  tree.walk (if p.isAbsolute then [] else cwd) p.names

/-- The location of a path to which nothing has to lead yet, but whose names before the last lead to a directory. -/
def locate (tree : FileTree) (cwd : Location) (p : Path) : Except Error Location :=
  match p.names.getLast? with
  | none => .ok (if p.isAbsolute then [] else cwd)
  | some name =>
    match tree.find cwd p.parent with
    | .error e => .error e
    | .ok (_, .file ..) => .error .notDirectory
    | .ok (dir, .directory) => .ok (if name = ".." then dir.dropLast else dir ++ [name])

def exists? (tree : FileTree) (cwd : Location) (p : Path) : Bool :=
  (tree.find cwd p).toOption.isSome

def isDirectory (tree : FileTree) (cwd : Location) (p : Path) : Bool :=
  match tree.find cwd p with
  | .ok (_, .directory) => true
  | _ => false

def isFile (tree : FileTree) (cwd : Location) (p : Path) : Bool :=
  match tree.find cwd p with
  | .ok (_, .file ..) => true
  | _ => false

def isExecutable (tree : FileTree) (cwd : Location) (p : Path) : Bool :=
  match tree.find cwd p with
  | .ok (_, .file _ executable) => executable
  | _ => false

/-- The text of a file, with line feeds for all its line ends. -/
def read (tree : FileTree) (cwd : Location) (p : Path) : Except Error String := do
  match ← tree.find cwd p with
  | (_, .directory) => .error .isDirectory
  | (_, .file text _) => return String.ofList (Text.unifyNewlines text.toList)

def fileNames (tree : FileTree) (dir : Location) : List String :=
  tree.entries.filterMap fun
    | (loc, .file ..) => if loc.dropLast = dir then loc.getLast? else none
    | (_, .directory) => none

/-! ## Changing -/

def put (tree : FileTree) (loc : Location) (entry : Entry) : FileTree :=
  if tree.entries.any (·.1 = loc) then
    ⟨tree.entries.map fun e => if e.1 = loc then (loc, entry) else e⟩
  else ⟨tree.entries ++ [(loc, entry)]⟩

def delete (tree : FileTree) (loc : Location) : FileTree :=
  ⟨tree.entries.filter fun e => !loc.isPrefixOf e.1⟩

end FileTree

/-- What a disk takes: whether something can be made at a location, whether a file there can be opened to be
written, and after how many characters it breaks a text off that does not fit. -/
structure Disk where
  admits : Location → Bool := fun _ => true
  opens : Location → Bool := fun _ => true
  room : Location → String → Option Nat := fun _ _ => none

/-- A change that has failed: for what cause, and the tree that it leaves. -/
structure Stopped where
  error : Error
  tree : FileTree

namespace FileTree

def after : Except Stopped FileTree → FileTree
  | .ok tree => tree
  | .error stop => stop.tree

/-- Makes the directories that are missing on the way to a location and at it. -/
def makeDirectories (tree : FileTree) (done : Location) (names : List String) (disk : Disk := {}) :
    Except Stopped FileTree :=
  match names with
  | [] => .ok tree
  | name :: more =>
    let loc := done ++ [name]
    match tree.at? loc with
    | none =>
      if disk.admits loc then (tree.put loc .directory).makeDirectories loc more disk
      else .error ⟨.diskFailure, tree⟩
    | some .directory => tree.makeDirectories loc more disk
    | some (.file ..) => .error ⟨if more.isEmpty then .fileExists else .notDirectory, tree⟩

/-- Makes an empty file. -/
def touch (tree : FileTree) (loc : Location) (disk : Disk) : Except Stopped FileTree :=
  if disk.admits loc then .ok (tree.put loc (.file "" false)) else .error ⟨.diskFailure, tree⟩

def beginning (n : Nat) (text : String) : String := String.ofList (text.toList.take n)

/-- Stores a text in a file that is opened for it. -/
def store (tree : FileTree) (loc : Location) (executable : Bool) (text : String) (disk : Disk) :
    Except Stopped FileTree :=
  if disk.opens loc then
    match disk.room loc text with
    | none => .ok (tree.put loc (.file text executable))
    -- The old text goes when the file is opened, so that nothing of it is left.
    | some n => .error ⟨.diskFailure, tree.put loc (.file (beginning n text) executable)⟩
  else .error ⟨.diskFailure, tree⟩

/-- Writes the text of a file, which keeps its mode if it is there already. -/
def write (tree : FileTree) (loc : Location) (text : String) (disk : Disk := {}) : Except Stopped FileTree :=
  match tree.at? loc with
  | some .directory => .error ⟨.isDirectory, tree⟩
  | some (.file _ executable) => tree.store loc executable text disk
  | none =>
    match tree.walk [] loc.dropLast with
    | .error e => .error ⟨e, tree⟩
    | .ok (_, .file ..) => .error ⟨.notDirectory, tree⟩
    | .ok (_, .directory) =>
      if disk.admits loc then tree.store loc false text disk else .error ⟨.diskFailure, tree⟩

end FileTree

end ModuleDocs
