/-!
# Edits

How one list of lines becomes another: runs of lines that are kept, and changes in between. The longest
common run is kept first, and then the longest ones before and after it. In a long text, lines that occur
often do not start a run, they only extend one.
-/
set_option autoImplicit false

namespace ModuleDocs.Diff

/-- A step from an old text to a new one. -/
inductive Edit where
  | keep (lines : List String)
  | change (old new : List String)
deriving Repr, DecidableEq

/-! ## Two views of a script -/

def Edit.old : Edit → List String
  | .keep lines => lines
  | .change old _ => old

def Edit.new : Edit → List String
  | .keep lines => lines
  | .change _ new => new

/-! ## Common runs -/

/-- A common run: where it starts in the two texts, and its length. -/
structure Run where
  old : Nat := 0
  new : Nat := 0
  size : Nat := 0
deriving Repr, DecidableEq

/-- The lengths of the common runs that end with a line of the old text, one for each line of the new text.
`before` are those that end with the line before it. -/
def runLengths (popular : List String) (line : String) (before : List Nat) (new : List String) : List Nat :=
  (new.zip (0 :: before)).map fun p => if p.1 = line && !popular.contains line then p.2 + 1 else 0

/-- The better of a run and those that end with the line at `i`; the first one wins among equals. -/
def betterRun (i : Nat) (best : Run) (lengths : List Nat) : Run :=
  (lengths.zipIdx).foldl (fun best p =>
    if p.1 > best.size then ⟨i + 1 - p.1, p.2 + 1 - p.1, p.1⟩ else best) best

/-- The first of the longest common runs, looking at the lines of the old text from the one at `i` on. -/
def longestFrom (popular new : List String) (i : Nat) (before : List Nat) (best : Run) : List String → Run
  | [] => best
  | line :: more =>
    let lengths := runLengths popular line before new
    longestFrom popular new (i + 1) lengths (betterRun i best lengths) more

def commonStart : List String → List String → Nat
  | a :: as, b :: bs => if a = b then commonStart as bs + 1 else 0
  | _, _ => 0

/-- The first of the longest common runs, extended as far as the texts agree. -/
def longestRun (popular old new : List String) : Run :=
  let best := longestFrom popular new 0 (new.map fun _ => 0) {} old
  let back := commonStart (old.take best.old).reverse (new.take best.new).reverse
  let forth := commonStart (old.drop (best.old + best.size)) (new.drop (best.new + best.size))
  ⟨best.old - back, best.new - back, best.size + back + forth⟩

/-! ## Scripts -/

/-- Puts a step in front of a script, joined with the first step if both keep lines. -/
def consEdit : Edit → List Edit → List Edit
  | .change [] [], script => script
  | .keep a, .keep b :: script => .keep (a ++ b) :: script
  | edit, script => edit :: script

/-- The steps from an old text to a new one, put in front of further steps. -/
def scriptBefore (popular : List String) :
    (fuel : Nat) → (old new : List String) → List Edit → List Edit
  | 0, old, new, script => consEdit (.change old new) script
  | fuel + 1, old, new, script =>
    let run := longestRun popular old new
    if run.size = 0 then consEdit (.change old new) script
    else
      let after := scriptBefore popular fuel (old.drop (run.old + run.size)) (new.drop (run.new + run.size)) script
      scriptBefore popular fuel (old.take run.old) (new.take run.new)
        (consEdit (.keep ((old.drop run.old).take run.size)) after)

/-- The lines that occur often in a long text: in more than one of a hundred lines, and one more. -/
def popularLines (lines : List String) : List String :=
  if lines.length < 200 then []
  else lines.eraseDups.filter fun line => lines.count line > lines.length / 100 + 1

def script (old new : List String) : List Edit :=
  scriptBefore (popularLines new) (old.length + 1) old new []

end ModuleDocs.Diff
