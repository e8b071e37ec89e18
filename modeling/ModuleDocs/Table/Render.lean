import ModuleDocs.Table.Layout
import ModuleDocs.Text.Html
import ModuleDocs.Text.Lines

/-!
# Tables as text

A table as Markdown, without the padding that its layout gives it, and as HTML.
-/
set_option autoImplicit false

namespace ModuleDocs.Table

open ModuleDocs.Text

/-! ## Markdown lines -/

/-- A row between bars, with a blank on both sides of a cell. -/
def barRow (cells : List (List Char)) : List Char :=
  '|' :: List.intercalate ['|'] (cells.map fun c => ' ' :: c ++ [' ']) ++ ['|']

def ruleRow (widths : List Nat) : List Char :=
  '|' :: List.intercalate ['|'] (widths.map fun w => List.replicate (w + 2) '-') ++ ['|']

/-- The columns of a table without rows: the titles alone. -/
def titleColumns (header : List String) : List Column :=
  header.map fun title => ({ title := title.toList, kind := .text, cells := [] } : Column).aligned

def barLines (grid : Grid) : Except Error (List (List Char)) := do
  let columns ← layout grid
  let shown := if columns.isEmpty then titleColumns grid.header else columns
  if grid.header.isEmpty && grid.rows.isEmpty then return []
  let head :=
    if grid.header.isEmpty then []
    else [barRow (shown.map (·.title)), ruleRow (shown.map fun c => (visible c.title).length)]
  return head ++ bodyLines barRow (barRow [[dividerMark]]) grid columns

/-! ## Squeezing -/

/-- Cuts the runs of blanks beside bars down to one blank each. `blanks` are blanks that have been read
and not yet written; with `drop`, a bar and its blank have just been written and further blanks go. -/
def squeezeBars (drop : Bool) (blanks : Nat) : List Char → List Char
  | [] => List.replicate blanks ' '
  | ' ' :: rest => if drop then squeezeBars true blanks rest else squeezeBars false (blanks + 1) rest
  | '|' :: ' ' :: rest => (if blanks = 0 then [] else [' ']) ++ '|' :: ' ' :: squeezeBars true 0 rest
  | '|' :: rest => (if blanks = 0 then [] else [' ']) ++ '|' :: squeezeBars false 0 rest
  | c :: rest => List.replicate blanks ' ' ++ c :: squeezeBars false 0 rest

/-- Cuts each run of dashes between two bars down to three. `dashes` are the dashes read since a bar, if
nothing else has been read since. -/
def shortenRules (dashes : Option Nat) : List Char → List Char
  | [] => List.replicate (dashes.getD 0) '-'
  | '-' :: rest =>
    match dashes with
    | some n => shortenRules (some (n + 1)) rest
    | none => '-' :: shortenRules none rest
  | '|' :: rest =>
    (match dashes with
      | some 0 | none => []
      | some _ => ['-', '-', '-']) ++ '|' :: shortenRules (some 0) rest
  | c :: rest => List.replicate (dashes.getD 0) '-' ++ c :: shortenRules none rest

def markdown (grid : Grid) : Except Error String := do
  return String.ofList (shortenRules none (squeezeBars false 0 (joinLines (← barLines grid))))

/-! ## HTML -/

def htmlCell (tag : String) (kind : CellKind) (cs : List Char) : String :=
  let style := if kind.isNumeric then " style=\"text-align: right;\"" else ""
  "<" ++ tag ++ style ++ ">" ++ String.ofList (escapeHtml cs) ++ "</" ++ tag ++ ">"

def htmlRow (tag : String) (columns : List Column) (cells : List (List Char)) : String :=
  "<tr>" ++ String.join ((columns.zip cells).map fun p => htmlCell tag p.1.kind p.2) ++ "</tr>"

/-- The end of a table, which also stands in the place of a row that divides it. -/
def htmlEnd : String := "</tbody>\n</table>"

def html (grid : Grid) : Except Error String := do
  let columns ← layout grid
  if grid.header.isEmpty && grid.rows.isEmpty then return ""
  let start :=
    if grid.header.isEmpty then "<table>\n<tbody>"
    else "<table>\n<thead>\n" ++ htmlRow "th" columns (columns.map (·.title)) ++ "\n</thead>\n<tbody>"
  let body := bodyLines (htmlRow "td" columns) htmlEnd grid columns
  return unlines (start :: body ++ [htmlEnd])

end ModuleDocs.Table
