import ModuleDocs.Proofs.Success
import ModuleDocs.Proofs.TidyTable

/-! # Laid out tables

A table that can be laid out has a line for its header, one for the rule below it and one for each row
(`markdown_eq_ok`). A cell stands in its line as its column shows it, with blanks around it (`Padded`), and only on its
right unless the column is one of numbers. -/
set_option autoImplicit false

namespace ModuleDocs

open Table Text

/-! ## Columns -/

/-- A cell of a column of some kind, before it is trimmed and padded. -/
def formatCell (kind : CellKind) (cs : List Char) : Except Error (List Char) :=
  match kind with
  | .number => formatNumber cs
  | .truth | .whole | .text => .ok cs

theorem formatCells_eq (kind : CellKind) (cells : List (List Char)) :
    formatCells kind cells = cells.mapM (formatCell kind) := by
  have hsame : cells.mapM (Except.ok (ε := Error)) = .ok cells := by
    rw [mapM_eq_ok, List.forall₂_same]
    exact fun _ _ => rfl
  cases kind with
  | number => rfl
  | truth => exact hsame.symm
  | whole => exact hsame.symm
  | text => exact hsame.symm

/-- A cell as a column of some kind shows it. -/
def shownCell (kind : CellKind) (cs : List Char) : List Char :=
  if kind.isNumeric then resultD [] (formatCell kind cs) else trim cs

def cellAt (i : Nat) (row : List String) : List Char := (row.getD i "").toList

section Grid
variable (grid : Grid)

def Grid.dataRows : List (List String) := grid.rows.filter (!isDivider ·)

/-- The number of columns that have cells to show. -/
def Grid.width : Nat := (grid.dataRows.headD []).length

def Grid.kindAt (i : Nat) : CellKind := columnKind (grid.dataRows.map (cellAt i))

/-- The titles and the cells of a column, before they are trimmed and padded. -/
def Grid.columnAt (i : Nat) : Column where
  title := (titlesFor grid.width grid.header).getD i []
  kind := grid.kindAt i
  cells := grid.dataRows.map fun row => resultD [] (formatCell (grid.kindAt i) (cellAt i row))

/-- Every cell can be formatted as its column asks for. -/
def Grid.HasFormats : Prop :=
  ∀ i < grid.width, ∀ row ∈ grid.dataRows, ∃ cell, formatCell (grid.kindAt i) (cellAt i row) = .ok cell

end Grid

theorem length_titlesFor (count : Nat) (header : List String) : (titlesFor count header).length = count := by
  simp only [titlesFor, List.length_take, List.length_append, List.length_replicate, List.length_map]
  omega

theorem eq_map_range_getD {α : Type} (l : List α) (default : α) :
    l = (List.range l.length).map fun i => l.getD i default := by
  refine List.ext_getElem (by simp) fun i h _ => ?_
  simp [List.getD_eq_getElem?_getD, List.getElem?_eq_getElem h]

section Columns
variable (grid : Grid)

theorem map_columnKind_columnCells :
    (columnCells grid.dataRows).map columnKind = (List.range grid.width).map grid.kindAt := by
  rw [columnCells, List.map_map]
  rfl

theorem zip_kinds_columnCells :
    ((columnCells grid.dataRows).map columnKind).zip (columnCells grid.dataRows) =
      (List.range grid.width).map fun i => (grid.kindAt i, grid.dataRows.map (cellAt i)) := by
  rw [map_columnKind_columnCells]
  exact List.zip_map' ..

theorem titlesFor_columnCells :
    titlesFor (columnCells grid.dataRows).length grid.header =
      (List.range grid.width).map fun i => (grid.columnAt i).title := by
  have hlength : (columnCells grid.dataRows).length = grid.width := by
    rw [columnCells, List.length_map, List.length_range]
    rfl
  have htitles := eq_map_range_getD (titlesFor grid.width grid.header) []
  rw [length_titlesFor] at htitles
  rw [hlength]
  exact htitles

/-- A column can be formatted if each of its cells can. -/
theorem exists_formatCells_iff (i : Nat) :
    (∃ cells, formatCells (grid.kindAt i) (grid.dataRows.map (cellAt i)) = .ok cells) ↔
      ∀ row ∈ grid.dataRows, ∃ cell, formatCell (grid.kindAt i) (cellAt i row) = .ok cell := by
  rw [formatCells_eq, exists_mapM_eq_ok, List.forall_mem_map]

variable {grid} in
theorem cells_columnAt_of_formatCells {i : Nat} {cells : List (List Char)}
    (h : formatCells (grid.kindAt i) (grid.dataRows.map (cellAt i)) = .ok cells) :
    cells = (grid.columnAt i).cells := by
  rw [formatCells_eq, mapM_eq_ok_iff_map []] at h
  rw [h.2, List.map_map]
  rfl

variable {grid} in
theorem mapM_formatCells_eq_ok {formatted : List (List (List Char))} :
    ((List.range grid.width).map fun i => (grid.kindAt i, grid.dataRows.map (cellAt i))).mapM
        (fun p => formatCells p.1 p.2) = .ok formatted ↔
      grid.HasFormats ∧ formatted = (List.range grid.width).map fun i => (grid.columnAt i).cells := by
  rw [mapM_eq_ok_iff_map [], List.forall_mem_map, List.map_map]
  simp only [exists_formatCells_iff, List.mem_range]
  refine and_congr_right fun h => Eq.congr_right (List.map_congr_left fun i hi => ?_)
  obtain ⟨cells, hcells⟩ := (exists_formatCells_iff grid i).mpr (h i (List.mem_range.mp hi))
  rw [Function.comp_apply, hcells, resultD_ok]
  exact cells_columnAt_of_formatCells hcells

end Columns

theorem layout_eq_ok {grid : Grid} {columns : List Column} :
    layout grid = .ok columns ↔
      grid.HasFormats ∧ columns = (List.range grid.width).map fun i => (grid.columnAt i).aligned := by
  unfold layout
  simp only [bind_eq_ok, pure_eq_ok]
  change (∃ formatted, (((columnCells grid.dataRows).map columnKind).zip (columnCells grid.dataRows)).mapM
      (fun p => formatCells p.1 p.2) = .ok formatted ∧
    ((titlesFor (columnCells grid.dataRows).length grid.header).zip
      (((columnCells grid.dataRows).map columnKind).zip formatted)).map _ = columns) ↔ _
  rw [zip_kinds_columnCells, map_columnKind_columnCells, titlesFor_columnCells]
  simp only [mapM_formatCells_eq_ok]
  constructor
  · rintro ⟨_, ⟨hformats, rfl⟩, rfl⟩
    refine ⟨hformats, ?_⟩
    rw [List.zip_map', List.zip_map', List.map_map]
    rfl
  · rintro ⟨hformats, rfl⟩
    refine ⟨_, ⟨hformats, rfl⟩, ?_⟩
    rw [List.zip_map', List.zip_map', List.map_map]
    rfl

/-! ## Placed cells -/

/-- A cell in the place of what is shown of it, with blanks around that. In a column that is not one of numbers there
are none on the left. -/
def Padded (kind : CellKind) (shown cell : List Char) : Prop :=
  ∃ left right, cell = List.replicate left ' ' ++ shown ++ List.replicate right ' ' ∧
    (kind.isNumeric = false → left = 0)

theorem padded_padRight (kind : CellKind) (width : Nat) (cs : List Char) : Padded kind cs (padRight width cs) :=
  ⟨0, width - (visible cs).length, rfl, fun _ => rfl⟩

theorem padded_padLeft {kind : CellKind} (h : kind.isNumeric = true) (width after : Nat) (cs : List Char) :
    Padded kind cs (padLeft width (cs ++ List.replicate after ' ')) :=
  ⟨_, after, (List.append_assoc _ _ _).symm, fun e => absurd (h.symm.trans e) (by decide)⟩

/-- The cells of a column as they are laid out. -/
def Table.Column.placed (c : Column) (cell : List Char) : List Char :=
  let cells := if c.kind.isNumeric then alignPoints c.cells else c.cells.map trim
  let width := max (widest cells) ((visible c.title).length + 2)
  if c.kind.isNumeric then
    padLeft width (cell ++ List.replicate (maximum (c.cells.map decimals) - decimals cell) ' ')
  else padRight width (trim cell)

theorem Table.Column.cells_aligned (c : Column) : c.aligned.cells = c.cells.map c.placed := by
  cases h : c.kind.isNumeric with
  | true => simp [Column.aligned, Column.placed, h, alignPoints]
  | false => simp [Column.aligned, Column.placed, h]

theorem Table.Column.title_aligned (c : Column) : Padded c.kind c.title c.aligned.title := by
  unfold Column.aligned
  cases h : c.kind.isNumeric with
  | true =>
    have hpad := padded_padLeft h (max (widest (alignPoints c.cells)) ((visible c.title).length + 2)) 0 c.title
    rwa [List.replicate_zero, List.append_nil] at hpad
  | false => exact padded_padRight c.kind _ c.title

section Rows
variable {grid : Grid}

/-- What a table shows of a row. -/
def Grid.shownRow (grid : Grid) (row : List String) : List (List Char) :=
  (List.range grid.width).map fun i => shownCell (grid.kindAt i) (cellAt i row)

def Grid.placedRow (grid : Grid) (row : List String) : List (List Char) :=
  (List.range grid.width).map fun i =>
    (grid.columnAt i).placed (resultD [] (formatCell (grid.kindAt i) (cellAt i row)))

theorem padded_placed (i : Nat) (row : List String) :
    Padded (grid.kindAt i) (shownCell (grid.kindAt i) (cellAt i row))
      ((grid.columnAt i).placed (resultD [] (formatCell (grid.kindAt i) (cellAt i row)))) := by
  unfold Table.Column.placed shownCell
  cases h : (grid.kindAt i).isNumeric with
  | true =>
    have hkind : (grid.columnAt i).kind.isNumeric = true := h
    simp only [hkind, if_true]
    exact padded_padLeft h _ _ _
  | false =>
    have hformat : formatCell (grid.kindAt i) (cellAt i row) = .ok (cellAt i row) := by
      revert h
      cases grid.kindAt i <;> simp [CellKind.isNumeric, formatCell]
    have hkind : (grid.columnAt i).kind.isNumeric = false := h
    simp only [hkind, Bool.false_eq_true, if_false, hformat, resultD_ok]
    exact padded_padRight _ _ _

theorem rowsOf_aligned (grid : Grid) :
    rowsOf grid.dataRows.length ((List.range grid.width).map fun i => (grid.columnAt i).aligned) =
      grid.dataRows.map grid.placedRow := by
  refine List.ext_getElem (by simp [rowsOf]) fun k hk _ => ?_
  have hk' : k < grid.dataRows.length := by simpa [rowsOf] using hk
  simp only [rowsOf, List.getElem_map, List.getElem_range, List.map_map, Grid.placedRow]
  refine List.map_congr_left fun i _ => ?_
  simp [Column.cells_aligned, Grid.columnAt, List.getD_eq_getElem?_getD, hk']

end Rows

/-! ## Lines -/

theorem withDividers_map {α : Type} (divider : α) (line : List String → α) (rows : List (List String)) :
    withDividers divider rows ((rows.filter (!isDivider ·)).map line) =
      rows.map fun row => if isDivider row then divider else line row := by
  induction rows with
  | nil => rfl
  | cons row rows ih =>
    cases h : isDivider row with
    | true => simp [withDividers, h, ih]
    | false => simp [withDividers, h, ih]

theorem withDividers_nil {α : Type} (divider : α) (rows : List (List String)) :
    withDividers divider rows [] = (rows.filter (isDivider ·)).map fun _ => divider := by
  induction rows with
  | nil => rfl
  | cons row rows ih =>
    cases h : isDivider row with
    | true => simp [withDividers, h, ih]
    | false => simp [withDividers, h, ih]

/-- The columns that are shown: those of the rows, or else of the titles alone. -/
def Grid.shownColumns (grid : Grid) : List Column :=
  if grid.width = 0 then titleColumns grid.header
  else (List.range grid.width).map fun i => (grid.columnAt i).aligned

/-- The lines of the rows of a table. Rows that divide it are all the same, and the others have their cells. -/
def Grid.rowLines (grid : Grid) : List (List Char) :=
  if grid.width = 0 then (grid.rows.filter (isDivider ·)).map fun _ => barRow [[dividerMark]]
  else grid.rows.map fun row => if isDivider row then barRow [[dividerMark]] else barRow (grid.placedRow row)

theorem shownColumns_ne_nil {grid : Grid} (hheader : grid.header ≠ []) : grid.shownColumns ≠ [] := by
  unfold Grid.shownColumns
  split
  · exact fun e => hheader (List.map_eq_nil_iff.mp e)
  · next hwidth => simpa using hwidth

theorem tidy_rule {grid : Grid} (hheader : grid.header ≠ []) :
    tidy (ruleRow (grid.shownColumns.map fun c => (visible c.title).length)) = shownRule grid.shownColumns.length := by
  have hwidths : grid.shownColumns.map (fun c => (visible c.title).length) ≠ [] := fun e =>
    shownColumns_ne_nil hheader (List.map_eq_nil_iff.mp e)
  rw [tidy_ruleRow hwidths, List.length_map]

/-- The lines above the rows, if there is a header: that of the titles and a rule. -/
def Grid.titleLines (grid : Grid) : List (List Char) :=
  if grid.header = [] then []
  else
    [barRow (grid.shownColumns.map (·.title)), ruleRow (grid.shownColumns.map fun c => (visible c.title).length)]

theorem barLines_eq_ok {grid : Grid} {lines : List (List Char)} :
    barLines grid = .ok lines ↔ grid.HasFormats ∧ lines = grid.titleLines ++ grid.rowLines := by
  have hshown : ∀ columns : List Column, columns = (List.range grid.width).map (fun i => (grid.columnAt i).aligned) →
      (if columns.isEmpty then titleColumns grid.header else columns) = grid.shownColumns ∧
        bodyLines barRow (barRow [[dividerMark]]) grid columns = grid.rowLines := by
    rintro columns rfl
    unfold Grid.shownColumns Grid.rowLines bodyLines
    by_cases hwidth : grid.width = 0
    · simp [hwidth, rowsOf, withDividers_nil]
    · have hisEmpty : ((List.range grid.width).map fun i => (grid.columnAt i).aligned).isEmpty = false := by
        simpa using hwidth
      simp only [hisEmpty, hwidth, Bool.false_eq_true, if_false, true_and]
      change withDividers _ _ ((rowsOf grid.dataRows.length _).map barRow) = _
      rw [rowsOf_aligned grid, List.map_map]
      exact withDividers_map _ _ _
  -- Without header and rows the lines are none of those that are put together.
  have hnone : (grid.header.isEmpty && grid.rows.isEmpty) = true → grid.titleLines ++ grid.rowLines = [] := by
    intro hempty
    rw [Bool.and_eq_true, List.isEmpty_iff, List.isEmpty_iff] at hempty
    simp [Grid.titleLines, Grid.rowLines, hempty]
  have hlines : ∀ columns : List Column, columns = (List.range grid.width).map (fun i => (grid.columnAt i).aligned) →
      (if grid.header.isEmpty then [] else
        [barRow ((if columns.isEmpty then titleColumns grid.header else columns).map (·.title)),
          ruleRow ((if columns.isEmpty then titleColumns grid.header else columns).map fun c =>
            (visible c.title).length)]) ++ bodyLines barRow (barRow [[dividerMark]]) grid columns =
        grid.titleLines ++ grid.rowLines := by
    intro columns hcolumns
    rw [(hshown columns hcolumns).1, (hshown columns hcolumns).2, Grid.titleLines]
    simp only [List.isEmpty_iff]
  unfold barLines
  simp only [bind_eq_ok, layout_eq_ok]
  constructor
  · rintro ⟨columns, ⟨hformats, hcolumns⟩, h⟩
    split at h
    · next hempty => exact ⟨hformats, (pure_eq_ok.mp h).symm.trans (hnone hempty).symm⟩
    · exact ⟨hformats, (pure_eq_ok.mp h).symm.trans (hlines columns hcolumns)⟩
  · rintro ⟨hformats, rfl⟩
    refine ⟨_, ⟨hformats, rfl⟩, ?_⟩
    split
    · next hempty => exact pure_eq_ok.mpr (hnone hempty).symm
    · exact pure_eq_ok.mpr (hlines _ rfl)

theorem markdown_eq_ok {grid : Grid} {text : String} :
    markdown grid = .ok text ↔
      grid.HasFormats ∧ text = String.ofList (tidy (joinLines (grid.titleLines ++ grid.rowLines))) := by
  rw [markdown_eq, map_eq_ok]
  constructor
  · rintro ⟨lines, hlines, rfl⟩
    obtain ⟨hformats, rfl⟩ := barLines_eq_ok.mp hlines
    exact ⟨hformats, rfl⟩
  · rintro ⟨hformats, rfl⟩
    exact ⟨_, barLines_eq_ok.mpr ⟨hformats, rfl⟩, rfl⟩

end ModuleDocs
