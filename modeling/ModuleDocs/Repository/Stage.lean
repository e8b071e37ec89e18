import ModuleDocs.Repository.Ignore

/-!
# Staging

What is staged when a file is named to the tool that keeps a repository. The tool reads the name as an option if
it starts with a hyphen, takes what follows a colon at its start for marks, and takes wildcards in it for a
pattern. It goes through the files in order and is content once it has come upon the very name.
-/
set_option autoImplicit false

namespace ModuleDocs.Staging

open Glob

/-! ## Names as options -/

/-- What an option does for want of a name. -/
inductive Effect where
  | nothing
  | all
  | update
  | failure
deriving Repr, DecidableEq

def longOptions : List (String × Effect) :=
  [("all", .all), ("chmod", .failure), ("dry-run", .nothing), ("edit", .failure), ("force", .nothing),
    ("ignore-errors", .nothing), ("ignore-missing", .failure), ("ignore-removal", .nothing),
    ("intent-to-add", .nothing), ("interactive", .nothing), ("patch", .nothing),
    ("pathspec-file-nul", .failure), ("pathspec-from-file", .failure), ("refresh", .nothing),
    ("renormalize", .update), ("sparse", .nothing), ("update", .update), ("verbose", .nothing),
    ("warn-embedded-repo", .nothing)]

/-- A long option, which may be cut short as long as it is the only one. -/
def longEffect (name : String) : Effect :=
  match longOptions.lookup name with
  | some effect => effect
  | none =>
    match longOptions.filter fun e => name.toList.isPrefixOf e.1.toList with
    | [(_, effect)] => effect
    | _ => .failure

def shortEffect (letters : List Char) : Effect :=
  if letters.any fun c => !"nvipfuAN".toList.contains c then .failure
  else if letters.contains 'A' && letters.contains 'u' then .failure
  else if letters.any fun c => ['n', 'i', 'p', 'N'].contains c then .nothing
  else if letters.contains 'A' then .all
  else if letters.contains 'u' then .update
  else .nothing

def effect? (name : String) : Option Effect :=
  match name.toList with
  | ['-', '-'] => some .nothing
  | '-' :: '-' :: rest => some (longEffect (String.ofList rest))
  | '-' :: rest => some (shortEffect rest)
  | _ => none

/-! ## Names as patterns -/

structure Spec where
  pattern : List Nat
  excluded : Bool := false
  literal : Bool := false
  path : Bool := false
deriving Repr, DecidableEq

def couldBeMark (c : Char) : Bool := "!\"#%&',-/:;<=>@_~".toList.contains c || c == Char.ofNat 0x60

def shortMarks (excluded : Bool) : List Char → Option Spec
  | [] => some { pattern := [], excluded }
  | c :: rest =>
    if c == ':' then some { pattern := bytesOf (String.ofList rest), excluded }
    else if c == '!' || c == '^' then shortMarks true rest
    else if c == '/' then shortMarks excluded rest
    else if couldBeMark c then none
    else some { pattern := bytesOf (String.ofList (c :: rest)), excluded }

def longMarks (words : List String) (pattern : List Nat) : Option Spec :=
  words.foldlM (fun spec word =>
    match word with
    | "" | "top" => some spec
    | "exclude" => some { spec with excluded := true }
    | "literal" => if spec.path then none else some { spec with literal := true }
    | "glob" => if spec.literal then none else some { spec with path := true }
    | _ => none) { pattern }

/-- What a name stands for, if its marks are known. -/
def Spec.ofName? (name : String) : Option Spec :=
  match name.toList with
  | ':' :: '(' :: rest =>
    let words := rest.takeWhile (· ≠ ')')
    if words.length == rest.length then none
    else
      longMarks ((String.ofList words).splitOn ",") (bytesOf (String.ofList (rest.drop (words.length + 1))))
  | ':' :: rest => shortMarks false rest
  | ['.'] => some { pattern := [] }
  | _ => some { pattern := bytesOf name }

def Spec.literalPart (s : Spec) : List Nat := if s.literal then s.pattern else Glob.literalPart s.pattern

/-- Whether a pattern fits a name, or a directory above it. -/
def Spec.fits (s : Spec) (name : List Nat) : Bool :=
  s.pattern.isEmpty || s.pattern == name ||
    (s.pattern.isPrefixOf name && (s.pattern.getLast? == some slash || name[s.pattern.length]? == some slash)) ||
    (s.literalPart.length < s.pattern.length && isMatch s.path s.pattern name)

/-- The names that are taken out of a list in order. After the very name of the pattern there are no more. -/
def Spec.take (s : Spec) : List (List String) → List (List String)
  | [] => []
  | path :: more =>
    let name := bytesOf ("/".intercalate path)
    if s.excluded then if s.fits name then s.take more else path :: s.take more
    else if s.pattern == name then [path]
    else if s.fits name then path :: s.take more
    else s.take more

def Spec.asksFor (s : Spec) (path : List String) : Bool :=
  let name := bytesOf ("/".intercalate path)
  let literal := s.literalPart
  literal == name ||
    (name.length < literal.length && name.isPrefixOf literal && s.pattern[name.length]? == some slash)

/-! ## Files -/

/-- The files of a repository in order, by the names on the way from its root. -/
def filesBelow (files : FileTree) (root : Location) : List (List String) :=
  let paths := files.entries.filterMap fun
    | (loc, .file ..) =>
      let path := loc.drop root.length
      if root.isPrefixOf loc && !path.contains ".git" then some path else none
    | (_, .directory) => none
  paths.mergeSort fun a b => "/".intercalate a ≤ "/".intercalate b

/-- Whether something has a name that is a pattern without its marks. -/
def exists? (files : FileTree) (root : Location) (pattern : List Nat) : Bool :=
  files.entries.any fun e =>
    root.isPrefixOf e.1 && bytesOf ("/".intercalate (e.1.drop root.length)) == pattern

/-- The staged files after a pattern has been added to them: new files that are not ignored, and none that
are gone. -/
def addSpec (files : FileTree) (root : Location) (s : Spec) (staged : List Location) :
    Except Error (List Location) := do
  let all := filesBelow files root
  let isStaged := fun (path : List String) => staged.contains (root ++ path)
  let fresh := all.filter fun path => !isStaged path
  let added := s.take (fresh.filter fun path => !Ignore.isIgnored files root path)
  let refused := all.any fun path =>
    match Ignore.ignoredAbove? files root path with
    | some dir => s.asksFor dir
    | none => !isStaged path && Ignore.isNamed files root path false && s.asksFor path
  let known := staged.any fun loc => s.fits (bytesOf ("/".intercalate (loc.drop root.length)))
  if refused && !s.excluded then .error .stagingFailed
  if added.isEmpty && !known && !s.excluded && !s.pattern.isEmpty && (s.path || !exists? files root s.pattern) then
    .error .stagingFailed
  let kept := staged.filter fun loc =>
    (files.at? loc).isSome || s.fits (bytesOf ("/".intercalate (loc.drop root.length))) == s.excluded
  return kept ++ added.map (root ++ ·)

/-- The staged files after a file has been named by its path from the root. -/
def addNamed (files : FileTree) (root : Location) (name : String) (staged : List Location) :
    Except Error (List Location) :=
  match effect? name with
  | some .nothing => .ok staged
  | some .all => addSpec files root { pattern := [] } staged
  | some .update => .ok (staged.filter fun loc => (files.at? loc).isSome)
  | some .failure => .error .stagingFailed
  | none =>
    match Spec.ofName? name with
    | some s => addSpec files root s staged
    | none => .error .stagingFailed

end ModuleDocs.Staging

namespace ModuleDocs.Workspace

def stage (ws : Workspace) (loc : Location) : Except Error Workspace := do
  if (ws.files.at? loc).isNone then .error .noSuchTarget
  match ws.repositoryOf? loc with
  | none => .error .noRepository
  | some repository =>
    if repository.bare then .error .bareRepository
    let root := repository.root
    let path := loc.drop root.length
    let name := if path.isEmpty then "." else "/".intercalate path
    let staged ← Staging.addNamed ws.files root name repository.staged
    return { ws with repositories := ws.repositories.map fun r => if r.root = root then { r with staged } else r }

end ModuleDocs.Workspace
