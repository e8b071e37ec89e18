import ModuleDocs.Hcl.Assignment
import ModuleDocs.Hcl.Block
import ModuleDocs.Hcl.Data
import ModuleDocs.Template
import ModuleDocs.Text.Search

/-!
# Where declarations stand

A declaration is looked for by the line that opens it. The search counts lines by line feeds; the block
is then cut out of the lines of the text.
-/
set_option autoImplicit false

namespace ModuleDocs.Hcl

/-! ## Opening lines -/

/-- How opening lines are found: the numbers of the lines at which they start in a text, and the test
for a single line. -/
structure Opening where
  source : String
  lines : Except Error (String → List Nat)
  opens : Except Error (String → Bool)

/-- The numbers, from one, of the lines between line feeds that pass a test. -/
def numberedLines (test : List Char → Bool) (text : String) : List Nat :=
  ((Text.splitOn ['\n'] text.toList).zipIdx 1).filterMap fun p => if test p.1 then some p.2 else none

def Opening.line (source line : String) : Opening where
  source := source
  lines := .ok (numberedLines (· = line.toList))
  opens := .ok (· = line)

def Opening.lead (source start : String) : Opening where
  source := source
  lines := .ok (numberedLines (start.toList.isPrefixOf ·))
  opens := .ok fun line => start.toList.isPrefixOf line.toList

def Opening.ofPattern (source : String) : Opening where
  source := source
  lines := (Pattern.readMultiline source).map fun pattern text =>
    (pattern.matchesIn text.toList).map fun m => (text.toList.take m.start).count '\n' + 1
  opens := (LineTest.ofPattern source).test

/-! ## Blocks of declarations -/

/-- The blocks in a text that have an opening line, with the numbers of these lines. -/
def Opening.find (o : Opening) (text : String) : Except Error (List (Nat × String)) := do
  let locs := (← o.lines) text
  if locs.isEmpty then .error (.declarationMissing o.source)
  let blocks ← findBlocks text (locs.map Int.ofNat) ⟨o.source, o.opens⟩ .closingBrace
  return locs.zip blocks

def namedOpening (keyword name : String) : Opening :=
  let line := keyword ++ " \"" ++ name ++ "\" \x7b"
  let source := "^" ++ line ++ "$"
  if isPlainName name.toList then .line source line else .ofPattern source

/-- The opening line of a resource. Names that are not plain are taken for templates, in which `name` is
the type, and then for patterns. -/
def resourceOpening (type identifier : String) : Except Error Opening :=
  let lead := "resource \"" ++ type ++ "\" \"" ++ identifier ++ "\" \x7b"
  if isPlainName type.toList && isPlainName identifier.toList then .ok (.lead ("^" ++ lead) lead)
  else (fillTemplate [("name", type)] ("^" ++ lead ++ "\x7b")).map .ofPattern

def localsOpening : Opening := .line "^locals \x7b$" "locals \x7b"

def Variable.find (v : Variable) (text : String) : Except Error (List (Nat × String)) :=
  (namedOpening "variable" v.name).find text

def Output.find (o : Output) (text : String) : Except Error (List (Nat × String)) :=
  (namedOpening "output" o.name).find text

def Resource.find (r : Resource) (text : String) : Except Error (List (Nat × String)) := do
  let (identifier, _) ← r.identified
  (← resourceOpening r.type identifier).find text

/-! ## Locals -/

/-- A local found in a block: the line, the block and the indentation. -/
structure LocalPlace where
  loc : Nat
  block : String
  indent : Nat
deriving Repr, DecidableEq

def localPlace? (name : String) (block : Nat × String) : Except Error (Option LocalPlace) := do
  match leastIndented? (← assignments name block.2) with
  | none => return none
  | some a => return some ⟨block.1 + (block.2.toList.take a.offset).count '\n', block.2, a.indent⟩

/-- The place of a local among all blocks of locals of a text: the earliest with the least indentation. -/
def Local.find (l : Local) (text : String) : Except Error (List (Nat × String)) := do
  let blocks ← localsOpening.find text
  let places ← blocks.mapM (localPlace? l.name)
  match firstLeast? LocalPlace.indent (places.filterMap id) with
  | none => .error (.localMissing l.name)
  | some place => return [(place.loc, place.block)]

end ModuleDocs.Hcl
