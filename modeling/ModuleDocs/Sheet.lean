import ModuleDocs.Row
import ModuleDocs.Table.Collapse
import ModuleDocs.Table.Render

/-!
# Tables of items

Items of one kind make a table with a row each and a column for each field that is not skipped. Empty
columns may be left out of the rows, rows may be sorted by their first cell, and long cells are collapsed.
-/
set_option autoImplicit false

namespace ModuleDocs

/-! ## Rows -/

def RowModel.shown {α : Type} (m : RowModel α) (skip : List String) : List (Field α) :=
  m.fields.filter fun f => !skip.contains f.name

def cellsOf {α : Type} (settings : Settings) (fields : List (Field α)) (e : String × Hcl.Item α) :
    Except Error (List String) :=
  fields.mapM fun f => f.cell settings e.1 e.2

def filledColumns (rows : List (List String)) : List Nat :=
  (List.range (rows.headD []).length).filter fun i => rows.any fun row => row.getD i "" ≠ ""

/-- Rows without their empty columns. Without any column there are no rows. -/
def dropEmptyColumns (rows : List (List String)) : List (List String) :=
  let kept := filledColumns rows
  if kept.isEmpty then [] else rows.map fun row => kept.map fun i => row.getD i ""

def rowBefore (a b : List String) : Bool := a.headD "" ≤ b.headD ""

/-- Rows in the order of their first cells, which they must have. -/
def sortRows (rows : List (List String)) : Except Error (List (List String)) :=
  if rows.any List.isEmpty then .error .missingCell else .ok (rows.mergeSort rowBefore)

/-! ## Tables -/

/-- The columns to collapse: their titles, and whether the first line stays outside. -/
def FormatSettings.collapsed (f : FormatSettings) : List (String × Bool) :=
  (if f.collapsibleLongValues then [("Value", false)] else []) ++
    (if f.collapsibleLongTypes then [("Type", false)] else []) ++
    (if f.collapsibleLongDefaults then [("Default", false)] else []) ++
    (if f.collapsibleLongDescription then [("Description", true)] else [])

def Grid.hasCell (grid : Grid) (title : String) : Bool :=
  (grid.header.findIdx? (· == title)).any fun i => grid.rows.head?.any fun row => i < row.length

def Settings.collapse (settings : Settings) (title : String) (keepFirst : Bool) (grid : Grid) :
    Except Error Grid := do
  if grid.hasCell title then settings.ensure .threshold
  Table.collapseColumn settings.format.collapsibleLongThreshold title keepFirst grid

/-- The table of some items. All fields of the first item must have a text, skipped or not. -/
def makeGrid {α : Type} (settings : Settings) (m : RowModel α) (skip : List String)
    (items : Hcl.ItemTable α) : Except Error Grid := do
  let format := settings.format
  match items with
  | [] => .error .noItems
  | first :: _ =>
    -- A skipped field that fails is still an error, though only in the first item.
    let _ ← cellsOf settings m.fields first
    let shown := m.shown skip
    let rows ← items.mapM (cellsOf settings shown)
    settings.ensure .tableFormat
    -- The header keeps the titles of the columns that go, so a title may stand over another column.
    let rows := if format.removeEmptyColumns then dropEmptyColumns rows else rows
    let rows ← if format.sortOrder = .ascending then sortRows rows else .ok rows
    let grid : Grid := { header := shown.map fun f => titleOf f.name, rows }
    format.collapsed.foldlM (fun grid c => settings.collapse c.1 c.2 grid) grid

/-- The table of some items as Markdown, which must be the chosen format. -/
def formatItems {α : Type} (settings : Settings) (m : RowModel α) (skip : List String)
    (items : Hcl.ItemTable α) : Except Error String := do
  settings.ensure .outputFormat
  match settings.targetConfig.format with
  | .other name => .error (.invalidFormat name)
  | .markdown =>
    if items.isEmpty then return ""
    Table.markdown (← makeGrid settings m skip items)

def formatItemsHtml {α : Type} (settings : Settings) (m : RowModel α) (skip : List String)
    (items : Hcl.ItemTable α) : Except Error String := do
  if items.isEmpty then return ""
  Table.html (← makeGrid settings m skip items)

end ModuleDocs
