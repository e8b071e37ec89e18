import ModuleDocs.Hcl.Name
import ModuleDocs.Pattern.Replace
import ModuleDocs.Text.Blank

/-!
# Assignments

The places in a text where a name at the start of a line, after spaces only, is followed by an equals
sign. Of several such places the one with the least indentation counts.
-/
set_option autoImplicit false

namespace ModuleDocs.Hcl

open ModuleDocs.Text

/-- An assignment in a text: its offset, which is the start of a line, and its indentation. -/
structure Assignment where
  offset : Nat
  indent : Nat
deriving Repr, DecidableEq

/-! ## Plain names -/

/-- What follows the equals sign of an assignment to a name at the start of a text. -/
def afterAssignment? (name cs : List Char) : Option (List Char) :=
  let rest := cs.dropWhile (· == ' ')
  if name.isPrefixOf rest then
    match (rest.drop name.length).dropWhile isBlank with
    | '=' :: value => some value
    | _ => none
  else none

/-- The assignments to a name in a text that begins at an offset; `lineStart` says whether it begins at
the start of a line. -/
def assignmentsFrom (name : List Char) (lineStart : Bool) (offset : Nat) : List Char → List Assignment
  | [] => []
  | c :: rest =>
    let later := assignmentsFrom name (c == '\n') (offset + 1) rest
    if lineStart && (afterAssignment? name (c :: rest)).isSome then
      ⟨offset, ((c :: rest).takeWhile (· == ' ')).length⟩ :: later
    else later

/-! ## All names -/

def assignmentSource (name : String) : String := "^ *" ++ name ++ "\\s*="

def assignments (name text : String) : Except Error (List Assignment) :=
  if isPlainName name.toList then .ok (assignmentsFrom name.toList true 0 text.toList)
  else do
    let pattern ← Pattern.readMultiline (assignmentSource name)
    return (pattern.matchesIn text.toList).map fun m => ⟨m.start, indent m.text⟩

def firstLeast? {α : Type} (key : α → Nat) : List α → Option α
  | [] => none
  | a :: more =>
    match firstLeast? key more with
    | none => some a
    | some b => if key a ≤ key b then some a else some b

def leastIndented? (found : List Assignment) : Option Assignment := firstLeast? Assignment.indent found

end ModuleDocs.Hcl
