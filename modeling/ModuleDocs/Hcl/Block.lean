import ModuleDocs.Error
import ModuleDocs.Pattern.Replace
import ModuleDocs.Text.Lines

/-!
# Blocks of lines

A block starts at a given line, which must pass one test, and ends with the first line from there on that
passes another.
-/
set_option autoImplicit false

namespace ModuleDocs.Hcl

/-- A test for lines, with the text by which it is reported. A test given by a malformed pattern fails
when it is first used. -/
structure LineTest where
  source : String
  test : Except Error (String → Bool)

/-- The test whether a pattern matches at the start of a line. -/
def LineTest.ofPattern (source : String) : LineTest where
  source := source
  test := (Pattern.read source).map fun pattern line => pattern.leads line.toList

/-- The test for the brace that closes a declaration, alone on its line. -/
def LineTest.closingBrace : LineTest where
  source := "^\x7d$"
  test := .ok fun line => line = "\x7d"

/-! ## Positions -/

/-- The lines from a position on, where negative positions count from the end. -/
def linesFrom {α : Type} (ls : List α) (position : Int) : List α :=
  if 0 ≤ position then ls.drop position.toNat else ls.drop (ls.length - position.natAbs)

def lineAt? {α : Type} (ls : List α) (position : Int) : Option α :=
  if 0 ≤ position then ls[position.toNat]?
  else if position.natAbs ≤ ls.length then ls[ls.length - position.natAbs]? else none

/-! ## Blocks -/

/-- The lines up to and including the first that passes a test. -/
def takeThrough (stops : String → Bool) : List String → Option (List String)
  | [] => none
  | line :: more => if stops line then some [line] else (takeThrough stops more).map (line :: ·)

/-- The block that starts at a line. Lines are numbered from one. -/
def findBlock (ls : List String) (start stop : LineTest) (loc : Int) : Except Error String := do
  let tail := linesFrom ls (loc - 1)
  if tail.isEmpty then .error (.invalidLine loc ls)
  let some line := lineAt? ls (loc - 1) | .error .lineOutOfRange
  let starts ← start.test
  if !starts line then .error (.startMismatch start.source line loc)
  let stops ← stop.test
  match takeThrough stops tail with
  | some block => return unlines block
  | none => .error (.endMismatch stop.source (tail.getLastD ""))

def findBlocks (text : String) (locs : List Int) (start stop : LineTest) : Except Error (List String) := do
  let blocks ← locs.mapM (findBlock (linesOf text) start stop)
  if blocks.isEmpty then .error (.noBlocks start.source text)
  return blocks

end ModuleDocs.Hcl
