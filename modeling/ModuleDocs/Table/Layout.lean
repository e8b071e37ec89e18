import ModuleDocs.Table.Cell
import ModuleDocs.Text.Blank

/-!
# Layout of tables

The cells of a table padded to the widths of their columns. Columns of numbers are aligned by the
decimal point, all others to the left. A header that is longer than the rows loses its last titles. A row
with a certain mark in one of its first two cells only divides the table: its cells are not shown.
-/
set_option autoImplicit false

namespace ModuleDocs

/-- A table: a header and rows of cells. -/
structure Grid where
  header : List String
  rows : List (List String)
deriving Repr, DecidableEq

namespace Table

open ModuleDocs.Text

/-! ## Padding -/

def padRight (width : Nat) (cs : List Char) : List Char :=
  cs ++ List.replicate (width - (visible cs).length) ' '

def padLeft (width : Nat) (cs : List Char) : List Char :=
  List.replicate (width - (visible cs).length) ' ' ++ cs

def maximum (ns : List Nat) : Nat := ns.foldl max 0

def widest (cells : List (List Char)) : Nat := maximum (cells.map fun c => (visible c).length)

/-! ## Decimal points -/

def lengthAfterLast? (c : Char) (cs : List Char) : Option Nat :=
  let after := cs.reverse.takeWhile (· ≠ c)
  if after.length = cs.length then none else some after.length

/-- The number of decimals of a cell, where a whole number has one less than none. It is one more than
that here, so that it is never negative. -/
def decimals (cs : List Char) : Nat :=
  let cs := visible cs
  if !isNumber cs || (Number.int? cs).isSome then 0
  else match lengthAfterLast? '.' cs with
    | some n => n + 1
    | none =>
      match lengthAfterLast? 'e' (cs.map Char.toLower) with
      | some n => n + 1
      | none => 0

def alignPoints (cells : List (List Char)) : List (List Char) :=
  let most := maximum (cells.map decimals)
  cells.map fun c => c ++ List.replicate (most - decimals c) ' '

/-! ## Columns -/

/-- A column of a table with its title. -/
structure Column where
  title : List Char
  kind : CellKind
  cells : List (List Char)
deriving Repr, DecidableEq

/-- A column with title and cells padded to one width, which is at least that of the title and two
more. -/
def Column.aligned (c : Column) : Column :=
  let cells := if c.kind.isNumeric then alignPoints c.cells else c.cells.map trim
  let width := max (widest cells) ((visible c.title).length + 2)
  let pad := if c.kind.isNumeric then padLeft width else padRight width
  { c with title := pad c.title, cells := cells.map pad }

/-- The cells of the columns of some rows, as many columns as the first row has. -/
def columnCells (rows : List (List String)) : List (List (List Char)) :=
  (List.range (rows.headD []).length).map fun i => rows.map fun row => (row.getD i "").toList

/-- Titles for a number of columns: missing ones are empty and come first, spare ones are left out. -/
def titlesFor (count : Nat) (header : List String) : List (List Char) :=
  let header := header.map String.toList
  (List.replicate (count - header.length) [] ++ header).take count

def dividerMark : Char := Char.ofNat 1

def isDivider (row : List String) : Bool := (row.take 2).contains (String.singleton dividerMark)

def layout (grid : Grid) : Except Error (List Column) := do
  -- A row that divides the table counts neither for the kinds of the columns nor for their widths.
  let columns := columnCells (grid.rows.filter (!isDivider ·))
  let kinds := columns.map columnKind
  let formatted ← (kinds.zip columns).mapM fun p => formatCells p.1 p.2
  let titles := titlesFor columns.length grid.header
  return (titles.zip (kinds.zip formatted)).map fun p =>
    ({ title := p.1, kind := p.2.1, cells := p.2.2 } : Column).aligned

/-- The cells of some columns, row by row. -/
def rowsOf (count : Nat) (columns : List Column) : List (List (List Char)) :=
  (List.range count).map fun i => columns.map fun c => c.cells.getD i []

/-- What is shown of rows, with something else in the place of those that divide the table. -/
def withDividers {α : Type} (divider : α) : List (List String) → List α → List α
  | [], _ => []
  | row :: rows, shown =>
    if isDivider row then divider :: withDividers divider rows shown
    else
      match shown with
      | [] => withDividers divider rows []
      | a :: shown => a :: withDividers divider rows shown

/-- The rows of a table as lines: those with cells, and the ones that divide it. -/
def bodyLines {α : Type} (line : List (List Char) → α) (divider : α) (grid : Grid) (columns : List Column) :
    List α :=
  let count := if columns.isEmpty then 0 else (grid.rows.filter (!isDivider ·)).length
  withDividers divider grid.rows ((rowsOf count columns).map line)

end Table

end ModuleDocs
