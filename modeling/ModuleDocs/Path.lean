import ModuleDocs.Text.Search

/-!
# Paths

A path is relative or starts at the root, and is a list of names; empty names and single points are
left out when it is read, double points are kept. A location is a path from the root without double
points.
-/
set_option autoImplicit false

namespace ModuleDocs

/-- Where a path starts: at the current directory, at the root, or at the root written by exactly two
slashes. -/
inductive PathStart where
  | here
  | root
  | doubleRoot
deriving Repr, DecidableEq

structure Path where
  start : PathStart := .here
  names : List String := []
deriving Repr, DecidableEq

/-- The names from the root down to a file or directory. -/
abbrev Location := List String

namespace Path

/-! ## Text -/

def ofText (text : String) : Path :=
  let start : PathStart :=
    match text.toList with
    | '/' :: '/' :: '/' :: _ => .root
    | '/' :: '/' :: _ => .doubleRoot
    | '/' :: _ => .root
    | _ => .here
  let names := (Text.splitOn ['/'] text.toList).map String.ofList
  ⟨start, names.filter fun name => name ≠ "" && name ≠ "."⟩

def text (p : Path) : String :=
  let names := "/".intercalate p.names
  match p.start with
  | .here => if p.names.isEmpty then "." else names
  | .root => "/" ++ names
  | .doubleRoot => "//" ++ names

def ofLocation (loc : Location) : Path := ⟨.root, loc⟩

/-! ## Parts -/

def isAbsolute (p : Path) : Bool := p.start ≠ .here

def parent (p : Path) : Path := { p with names := p.names.dropLast }

def name (p : Path) : String := p.names.getLastD ""

/-- The name without its extension; a point at its start or end begins no extension. -/
def stem (p : Path) : String :=
  let cs := p.name.toList
  let extension := cs.reverse.takeWhile (· ≠ '.')
  let front := cs.length - extension.length - 1
  if extension.isEmpty || front = 0 || extension.length = cs.length then p.name
  else String.ofList (cs.take front)

/-- A path seen from another one; a path from the root stands for itself. -/
def join (p q : Path) : Path := if q.isAbsolute then q else { p with names := p.names ++ q.names }

def relativeTo? (p base : Path) : Option Path :=
  if p.start = base.start ∧ base.names.isPrefixOf p.names then
    some ⟨.here, p.names.drop base.names.length⟩
  else none

/-! ## Locations -/

/-- Goes on from a location by names, where a double point goes back. -/
def follow (loc : Location) : List String → Location
  | [] => loc
  | name :: more => follow (if name = ".." then loc.dropLast else loc ++ [name]) more

def resolve (cwd : Location) (p : Path) : Location :=
  follow (if p.isAbsolute then [] else cwd) p.names

end Path

end ModuleDocs
