import ModuleDocs.Repository.Glob
import ModuleDocs.Workspace

/-!
# Ignored files

Files named by the rules in a directory are not taken up into a repository, nor is anything below a directory
that is named so. Of several rules the last one counts, rules in a nearer directory before those further up, and
a rule can also name exceptions.
-/
set_option autoImplicit false

namespace ModuleDocs.Ignore

open Glob

structure Rule where
  negative : Bool
  directoryOnly : Bool
  pattern : List Nat
deriving Repr, DecidableEq

/-! ## Reading -/

/-- A line without the spaces at its end, but for one after a backslash. -/
def dropSpaces : (pending : List Nat) → List Nat → List Nat
  | _, [] => []
  | pending, 92 :: c :: rest => pending ++ 92 :: c :: dropSpaces [] rest
  | pending, 92 :: [] => pending ++ [92]
  | pending, c :: rest => if c == 32 then dropSpaces (pending ++ [c]) rest else pending ++ c :: dropSpaces [] rest

def ruleOf? (line : List Nat) : Option Rule :=
  if line.isEmpty || line.head? == some (code '#') then none
  else
    let line := if line.getLast? == some 13 then line.dropLast else line
    let line := dropSpaces [] line
    let negative := line.head? == some (code '!')
    let pattern := if negative then line.tail else line
    let directoryOnly := pattern.getLast? == some slash
    some { negative, directoryOnly, pattern := if directoryOnly then pattern.dropLast else pattern }

def splitLines : List Nat → List (List Nat)
  | [] => [[]]
  | c :: rest =>
    if c == 10 then [] :: splitLines rest
    else
      match splitLines rest with
      | [] => [[c]]
      | line :: more => (c :: line) :: more

def rulesOf (text : String) : List Rule :=
  let bytes := bytesOf text
  let bytes := if bytes.take 3 == [0xef, 0xbb, 0xbf] then bytes.drop 3 else bytes
  (splitLines bytes).filterMap ruleOf?

/-! ## Matching -/

/-- Whether a rule names a path below the directory that has the rule. A pattern without a slash is one for the
name alone. -/
def Rule.names (r : Rule) (path : List String) (isDirectory : Bool) : Bool :=
  if r.directoryOnly && !isDirectory then false
  else if !r.pattern.contains slash then
    let name := bytesOf (path.getLastD "")
    if (literalPart r.pattern).length == r.pattern.length then name == r.pattern
    else isMatch false r.pattern name
  else
    let pattern := if r.pattern.head? == some slash then r.pattern.tail else r.pattern
    let name := bytesOf ("/".intercalate path)
    let literal := literalPart pattern
    if !literal.isPrefixOf name then false
    else isMatch true (pattern.drop literal.length) (name.drop literal.length)

def rulesAt (files : FileTree) (dir : Location) (name : List String) : List Rule :=
  match files.at? (dir ++ name) with
  | some (.file text _) => rulesOf text
  | _ => []

def decisive? (files : FileTree) (root : Location) (path : List String) (isDirectory : Bool) : Option Rule :=
  let depths := (List.range path.length).reverse
  let found := depths.findSome? fun depth =>
    ((rulesAt files (root ++ path.take depth) [".gitignore"]).reverse).find? fun r =>
      r.names (path.drop depth) isDirectory
  found <|> ((rulesAt files root [".git", "info", "exclude"]).reverse).find? fun r => r.names path isDirectory

def isNamed (files : FileTree) (root : Location) (path : List String) (isDirectory : Bool) : Bool :=
  (decisive? files root path isDirectory).any (!·.negative)

def ignoredAbove? (files : FileTree) (root : Location) (path : List String) : Option (List String) :=
  (((List.range path.length).drop 1).map path.take).find? fun dir => isNamed files root dir true

/-- Whether a file is ignored, itself or with a directory. -/
def isIgnored (files : FileTree) (root : Location) (path : List String) : Bool :=
  (ignoredAbove? files root path).isSome || isNamed files root path false

end ModuleDocs.Ignore
