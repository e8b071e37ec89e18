import ModuleDocs.Diff.Edit

/-!
# Unified diffs

The changes between two texts with three lines of context, grouped into hunks.
-/
set_option autoImplicit false

namespace ModuleDocs.Diff

def context : Nat := 3

/-- Changes that stand close together, with the numbers of lines before them. -/
structure Hunk where
  oldStart : Nat
  newStart : Nat
  edits : List Edit
deriving Repr, DecidableEq

/-! ## Hunks -/

def lastLines (n : Nat) (lines : List String) : List String := lines.drop (lines.length - n)

def trimLast : List Edit → List Edit
  | [] => []
  | [.keep lines] => [.keep (lines.take context)]
  | edit :: more => edit :: trimLast more

/-- The hunks of a script. `hunk` is the current one, with its steps from the last to the first, and `i` and
`j` are the numbers of lines before the next step. -/
def hunksFrom (hunk : Hunk) (i j : Nat) : List Edit → List Hunk
  | [] =>
    match hunk.edits with
    | [] | [.keep _] => []
    | edits => [{ hunk with edits := edits.reverse }]
  | .keep lines :: more =>
    let n := lines.length
    if n > 2 * context then
      { hunk with edits := (.keep (lines.take context) :: hunk.edits).reverse } ::
        hunksFrom ⟨i + n - context, j + n - context, [.keep (lastLines context lines)]⟩ (i + n) (j + n) more
    else hunksFrom { hunk with edits := .keep lines :: hunk.edits } (i + n) (j + n) more
  | .change old new :: more =>
    hunksFrom { hunk with edits := .change old new :: hunk.edits } (i + old.length) (j + new.length) more

/-- The hunks of a script, from its start. -/
def hunks : List Edit → List Hunk
  | .keep lines :: more =>
    let shown := lastLines context lines
    let skipped := lines.length - shown.length
    hunksFrom ⟨skipped, skipped, []⟩ skipped skipped (trimLast (.keep shown :: more))
  | script => hunksFrom ⟨0, 0, []⟩ 0 0 (trimLast script)

/-! ## Lines -/

/-- A range of lines: its first line and its length, which is left out if it is one. -/
def rangeText (start length : Nat) : String :=
  if length = 1 then toString (start + 1)
  else if length = 0 then toString start ++ ",0"
  else toString (start + 1) ++ "," ++ toString length

def Edit.lines : Edit → List String
  | .keep lines => lines.map (" " ++ ·)
  | .change old new => old.map ("-" ++ ·) ++ new.map ("+" ++ ·)

def Hunk.lines (h : Hunk) : List String :=
  let old := (h.edits.flatMap Edit.old).length
  let new := (h.edits.flatMap Edit.new).length
  ("@@ -" ++ rangeText h.oldStart old ++ " +" ++ rangeText h.newStart new ++ " @@") ::
    h.edits.flatMap Edit.lines

/-- The lines of a unified diff between two texts. There are none between equal ones. -/
def unified (old new : List String) : List String :=
  match hunks (script old new) with
  | [] => []
  | found => "--- " :: "+++ " :: found.flatMap Hunk.lines

end ModuleDocs.Diff
