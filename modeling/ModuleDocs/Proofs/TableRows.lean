import ModuleDocs.Proofs.TableLayout

/-! # Lines of rows

A column is padded to the width of its widest cell, so that the layout of a row depends on all rows. None of this is
left in the table that is shown (`Grid.IsOrdinary.markdown_eq`): the line of a row is written down from its own cells
alone, and the two lines above the rows from the header alone. -/
set_option autoImplicit false

namespace ModuleDocs

open Table Text

/-! ## Columns of text -/

theorem Table.CellKind.join_text (kind : CellKind) : kind.join .text = .text := by
  cases kind <;> rfl

theorem Table.CellKind.text_join (kind : CellKind) : CellKind.join .text kind = .text := by
  cases kind <;> rfl

theorem columnKind_eq_text {cells : List (List Char)} (h : ∃ cs ∈ cells, cellKind cs = .text) :
    columnKind cells = .text := by
  have hstay : ∀ rest : List (List Char),
      rest.foldl (fun (kind : CellKind) cs => kind.join (cellKind cs)) .text = .text := by
    intro rest
    induction rest with
    | nil => rfl
    | cons cs rest ih => rw [List.foldl_cons, CellKind.text_join, ih]
  obtain ⟨cs, hcs, htext⟩ := h
  obtain ⟨front, rest, rfl⟩ := List.append_of_mem hcs
  rw [columnKind, List.foldl_append, List.foldl_cons, htext, CellKind.join_text, hstay]

theorem isCell_trim {cs : List Char} (h : '|' ∉ cs) : IsCell (trim cs) where
  noBar := fun hbar => h (trim_subset cs hbar)
  head := head?_trim_ne (by decide) cs
  last := getLast?_trim_ne (by decide) cs

/-! ## Ordinary tables -/

/-- The control characters. -/
def isControl (c : Char) : Bool := c.toNat < 0x20 || (0x7f ≤ c.toNat && c.toNat < 0xa0)

/-- A table with a cell below each title, without bars and control characters in its cells. First cells have a text, and
in each column some cell is no number and no truth value. -/
structure Grid.IsOrdinary (grid : Grid) : Prop where
  length : ∀ row ∈ grid.rows, row.length = grid.header.length
  noBar : ∀ row ∈ grid.rows, ∀ cell ∈ row, '|' ∉ cell.toList
  noControl : ∀ row ∈ grid.rows, ∀ cell ∈ row, cell.toList.any isControl = false
  first : ∀ row ∈ grid.rows, row.headD "" ≠ ""
  text : ∀ i < grid.header.length, ∃ row ∈ grid.rows, cellKind (cellAt i row) = .text

/-- The line of a row: its trimmed cells between bars. -/
def rowLine (row : List String) : String :=
  String.ofList ('|' :: row.flatMap fun cell => betweenBars (trim cell.toList))

/-- The lines of a header: the titles, and a rule below them. -/
def headLines (header : List String) : List String :=
  if header = [] then []
  else [String.ofList (tidy (barRow (header.map String.toList))), String.ofList (shownRule header.length)]

namespace Grid.IsOrdinary

variable {grid : Grid} (h : grid.IsOrdinary)
include h

theorem isDivider_eq_false {row : List String} (hrow : row ∈ grid.rows) : isDivider row = false := by
  rw [isDivider, List.contains_eq_mem, decide_eq_false_iff_not]
  intro hmark
  have hcontrol := h.noControl row hrow _ (List.mem_of_mem_take hmark)
  rw [String.toList_singleton] at hcontrol
  exact absurd hcontrol (by decide)

theorem dataRows_eq : grid.dataRows = grid.rows :=
  List.filter_eq_self.mpr fun row hrow => by rw [h.isDivider_eq_false hrow]; rfl

theorem header_eq_nil (hrows : grid.rows = []) : grid.header = [] := by
  by_contra hheader
  obtain ⟨row, hrow, -⟩ := h.text 0 (List.length_pos_iff.mpr hheader)
  rw [hrows] at hrow
  exact List.not_mem_nil hrow

theorem rows_eq_nil (hheader : grid.header = []) : grid.rows = [] := by
  refine List.eq_nil_iff_forall_not_mem.mpr fun row hrow => h.first row hrow ?_
  have hlength := h.length row hrow
  rw [hheader, List.length_nil, List.length_eq_zero_iff] at hlength
  rw [hlength]
  rfl

theorem width_eq : grid.width = grid.header.length := by
  rw [Grid.width, h.dataRows_eq]
  cases hrows : grid.rows with
  | nil => rw [h.header_eq_nil hrows]; rfl
  | cons row rows => exact h.length row (hrows ▸ List.mem_cons_self)

theorem kindAt_eq {i : Nat} (hi : i < grid.width) : grid.kindAt i = .text := by
  obtain ⟨row, hrow, htext⟩ := h.text i (h.width_eq ▸ hi)
  refine columnKind_eq_text ⟨_, List.mem_map_of_mem ?_, htext⟩
  rwa [h.dataRows_eq]

theorem hasFormats : grid.HasFormats := by
  intro i hi row _
  rw [h.kindAt_eq hi]
  exact ⟨_, rfl⟩

theorem padded_right {i : Nat} (hi : i < grid.width) {shown cell : List Char}
    (hpad : Padded (grid.kindAt i) shown cell) : ∃ k, cell = shown ++ List.replicate k ' ' := by
  obtain ⟨left, right, rfl, hleft⟩ := hpad
  obtain rfl := hleft (by rw [h.kindAt_eq hi]; rfl)
  exact ⟨right, rfl⟩

theorem tidy_titles :
    tidy (barRow (grid.shownColumns.map (·.title))) = tidy (barRow (grid.header.map String.toList)) := by
  by_cases hwidth : grid.width = 0
  · have hheader : grid.header = [] := List.length_eq_zero_iff.mp (h.width_eq ▸ hwidth)
    rw [Grid.shownColumns, if_pos hwidth, hheader]
    rfl
  · have htitles : titlesFor grid.width grid.header = grid.header.map String.toList := by
      rw [titlesFor, h.width_eq, List.length_map, Nat.sub_self]
      exact List.take_of_length_le (by simp)
    have hshown : grid.header.map String.toList =
        (List.range grid.width).map fun i => (grid.columnAt i).title := by
      have hrange := eq_map_range_getD (titlesFor grid.width grid.header) []
      rw [length_titlesFor] at hrange
      exact htitles.symm.trans hrange
    rw [Grid.shownColumns, if_neg hwidth, List.map_map, hshown]
    refine tidy_barRow_padded (List.forall₂_map_left_iff.mpr (List.forall₂_map_right_iff.mpr ?_))
    refine List.forall₂_same.mpr fun i hi => ?_
    exact h.padded_right (List.mem_range.mp hi) (grid.columnAt i).title_aligned

theorem tidy_row {row : List String} (hrow : row ∈ grid.rows) (hheader : grid.header ≠ []) :
    tidy (barRow (grid.placedRow row)) = (rowLine row).toList := by
  have hwidth : grid.width = row.length := by rw [h.width_eq, h.length row hrow]
  have hshown : grid.shownRow row = row.map fun cell => trim cell.toList := by
    have hrange := eq_map_range_getD row ""
    rw [hrange, List.map_map, Grid.shownRow, hwidth, ← hrange]
    refine List.map_congr_left fun i hi => ?_
    rw [h.kindAt_eq (hwidth ▸ List.mem_range.mp hi)]
    rfl
  have hpadded : tidy (barRow (grid.placedRow row)) = tidy (barRow (grid.shownRow row)) := by
    refine tidy_barRow_padded (List.forall₂_map_left_iff.mpr (List.forall₂_map_right_iff.mpr ?_))
    refine List.forall₂_same.mpr fun i hi => ?_
    exact h.padded_right (List.mem_range.mp hi) (padded_placed i row)
  have hne : row ≠ [] := by
    rintro rfl
    exact hheader (List.length_eq_zero_iff.mp (h.length [] hrow).symm)
  rw [hpadded, hshown, tidy_barRow_of_isCell (by simpa using hne), List.flatMap_map, rowLine, String.toList_ofList]
  refine List.forall_mem_map.mpr fun cell hcell => isCell_trim (h.noBar row hrow cell hcell)

theorem markdown_eq : markdown grid = .ok (unlines (headLines grid.header ++ grid.rows.map rowLine)) := by
  by_cases hheader : grid.header = []
  · have hgrid : grid = ⟨[], []⟩ := by
      rw [← hheader, ← h.rows_eq_nil hheader]
    rw [hgrid]
    rfl
  · have hwidth : grid.width ≠ 0 := by
      rw [h.width_eq]
      exact fun e => hheader (List.length_eq_zero_iff.mp e)
    have hcount : grid.shownColumns.length = grid.header.length := by
      rw [Grid.shownColumns, if_neg hwidth, List.length_map, List.length_range, h.width_eq]
    have hrows : grid.rowLines.map tidy = (grid.rows.map rowLine).map String.toList := by
      rw [Grid.rowLines, if_neg hwidth, List.map_map, List.map_map]
      refine List.map_congr_left fun row hrow => ?_
      rw [Function.comp_apply, Function.comp_apply, h.isDivider_eq_false hrow, if_neg Bool.false_ne_true]
      exact h.tidy_row hrow hheader
    refine markdown_eq_ok.mpr ⟨h.hasFormats, (congrArg String.ofList ?_).symm⟩
    rw [tidy_joinLines, Grid.titleLines, if_neg hheader, List.map_append, List.map_cons, List.map_singleton,
      h.tidy_titles, tidy_rule hheader, hcount, hrows, headLines, if_neg hheader, List.map_append, List.map_cons,
      List.map_singleton, String.toList_ofList, String.toList_ofList]

theorem newline_notMem_rowLine {row : List String} (hrow : row ∈ grid.rows) : '\n' ∉ (rowLine row).toList := by
  rw [rowLine, String.toList_ofList, List.mem_cons, not_or, List.mem_flatMap]
  refine ⟨by decide, ?_⟩
  rintro ⟨cell, hcell, hmem⟩
  have hnewline : '\n' ∈ trim cell.toList := by
    unfold betweenBars at hmem
    split at hmem
    · exact absurd hmem (by decide)
    · simpa using hmem
  have hcontrol := h.noControl row hrow cell hcell
  rw [List.any_eq_false] at hcontrol
  exact hcontrol _ (trim_subset _ hnewline) (by decide)

end Grid.IsOrdinary

/-- Two tables with the same header have the same lines above their rows, and a row has the same line in both. -/
theorem markdown_rows_independent {grid₁ grid₂ : Grid} (hheader : grid₁.header = grid₂.header)
    (h₁ : grid₁.IsOrdinary) (h₂ : grid₂.IsOrdinary) :
    ∃ head : List String,
      (grid₁.header ≠ [] → ∃ titles, head = [titles, String.ofList (shownRule grid₁.header.length)]) ∧
      markdown grid₁ = .ok (unlines (head ++ grid₁.rows.map rowLine)) ∧
      markdown grid₂ = .ok (unlines (head ++ grid₂.rows.map rowLine)) ∧
      ∀ row ∈ grid₁.rows ++ grid₂.rows, '\n' ∉ (rowLine row).toList := by
  refine ⟨headLines grid₁.header, fun hne => ⟨_, if_neg hne⟩, h₁.markdown_eq, ?_, ?_⟩
  · rw [hheader]
    exact h₂.markdown_eq
  · intro row hrow
    rcases List.mem_append.mp hrow with hrow | hrow
    · exact h₁.newline_notMem_rowLine hrow
    · exact h₂.newline_notMem_rowLine hrow

def narrowTable : Grid := ⟨["Name", "Default"], [["a", ""], ["b", "---"], ["c", "1"]]⟩

def wideTable : Grid := ⟨["Name", "Default"], [["b", "---"], ["the_longest", " some  text "]]⟩

theorem isOrdinary_narrowTable : narrowTable.IsOrdinary where
  length := by decide
  noBar := by decide
  noControl := by decide
  first := by decide
  text := by decide +kernel

theorem isOrdinary_wideTable : wideTable.IsOrdinary where
  length := by decide
  noBar := by decide
  noControl := by decide
  first := by decide
  text := by decide +kernel

/-- A row of dashes stands below an empty cell in one table and above a much wider one in the other. -/
theorem markdown_rows_independent_dashes :
    narrowTable.IsOrdinary ∧ wideTable.IsOrdinary ∧
      ∃ titles, markdown narrowTable = .ok (unlines [titles, "|---|---|", "| a | |", "| b | --- |", "| c | 1 |"]) ∧
        markdown wideTable = .ok (unlines [titles, "|---|---|", "| b | --- |", "| the_longest | some  text |"]) := by
  have hheader : narrowTable.header = wideTable.header := rfl
  obtain ⟨head, hhead, hnarrow, hwide, -⟩ :=
    markdown_rows_independent hheader isOrdinary_narrowTable isOrdinary_wideTable
  obtain ⟨titles, rfl⟩ := hhead (by decide)
  have hrule : String.ofList (shownRule narrowTable.header.length) = "|---|---|" := by decide
  have hrows : narrowTable.rows.map rowLine = ["| a | |", "| b | --- |", "| c | 1 |"] := by decide +kernel
  have hrows' : wideTable.rows.map rowLine = ["| b | --- |", "| the_longest | some  text |"] := by decide +kernel
  rw [hrule, hrows] at hnarrow
  rw [hrule, hrows'] at hwide
  exact ⟨isOrdinary_narrowTable, isOrdinary_wideTable, titles, hnarrow, hwide⟩

end ModuleDocs
