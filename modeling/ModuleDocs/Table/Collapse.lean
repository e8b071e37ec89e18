import ModuleDocs.Markdown.PlainText
import ModuleDocs.Table.Layout
import ModuleDocs.Text.Html

/-!
# Collapsing long cells

A cell whose plain text is longer than a threshold is put into an element that can be folded. The line
breaks at its two ends are dropped, and its first line may stay outside.
-/
set_option autoImplicit false

namespace ModuleDocs.Table

open ModuleDocs.Text

/-! ## Line breaks at the ends -/

/-- Drops all line breaks at the start, with the blanks around them. The blanks of a text that starts with
no line break stay. -/
def dropBreaks (mark : List Char) : (fuel : Nat) → List Char → List Char
  | 0, cs => cs
  | fuel + 1, cs =>
    match dropPrefix? mark (trimStart cs) with
    | some rest => dropBreaks mark fuel (trimStart rest)
    | none => cs

def trimBreaks (cs : List Char) : List Char :=
  let cs := dropBreaks lineBreak cs.length cs
  (dropBreaks lineBreak.reverse cs.length cs.reverse).reverse

/-! ## Cells -/

def dropPre : List Char → List Char
  | '<' :: 'p' :: 'r' :: 'e' :: '>' :: rest => dropPre rest
  | '<' :: '/' :: 'p' :: 'r' :: 'e' :: '>' :: rest => dropPre rest
  | c :: rest => c :: dropPre rest
  | [] => []

/-- The text that counts for the length of a cell. -/
def shownText (cs : List Char) : Except Error String := plainText (String.ofList (dropPre cs))

/-- A text in an element that can be folded, if it is longer than the threshold. -/
def folded (threshold : Int) (cs : List Char) : Except Error (List Char) := do
  let shown ← shownText cs
  return if (shown.length : Int) > threshold then "<details>".toList ++ cs ++ "</details>".toList else cs

/-- The first line of a cell, and its other lines. -/
def firstLine (cs : List Char) : List Char × List Char :=
  match splitOn lineBreak cs with
  | [] => ([], [])
  | first :: more => (trim first, trimBreaks (trim (List.intercalate lineBreak more)))

def collapseCell (threshold : Int) (keepFirst : Bool) (cell : String) : Except Error String := do
  let cs := trimBreaks cell.toList
  if keepFirst then
    let (first, more) := firstLine cs
    return String.ofList (first ++ lineBreak ++ (← folded threshold more))
  else return String.ofList (← folded threshold cs)

/-! ## Columns -/

def collapseColumn (threshold : Int) (title : String) (keepFirst : Bool) (grid : Grid) :
    Except Error Grid := do
  match grid.header.findIdx? (· == title) with
  | none => return grid
  | some i =>
    let rows ← grid.rows.mapM fun row =>
      match row[i]? with
      | none => .error .missingCell
      | some cell => do return row.set i (← collapseCell threshold keepFirst cell)
    return { grid with rows }

end ModuleDocs.Table
