import ModuleDocs.Proofs.GridText
import ModuleDocs.Proofs.RowOrder

/-! # Tables as texts

Nothing in the text of a cell is escaped for the sake of the table. What is written is a table with a line for each
item (`IsTable`) unless a bar, a line feed or the mark of a divider is in the way (`isTable_markdown_iff`). -/
set_option autoImplicit false

namespace ModuleDocs

open Table Text

/-! ## Lines of tables -/

/-- A text that is a table: a line of titles, a rule and lines of rows, all with one bar more than there are columns. -/
def IsTable (columns rows : Nat) (text : String) : Prop :=
  ∃ titles body, splitOn ['\n'] text.toList = titles :: shownRule columns :: body ∧ body.length = rows ∧
    ∀ line ∈ titles :: shownRule columns :: body, line.count '|' = columns + 1

theorem count_bar_shownRule (n : Nat) : (shownRule n).count '|' = n + 1 := by
  have hrule : (List.replicate n ['-', '-', '-', '|']).flatten.count '|' = n := by
    induction n with
    | zero => rfl
    | succ n ih => rw [List.replicate_succ, List.flatten_cons, List.count_append, ih, Nat.add_comm]; rfl
  rw [shownRule, List.count_cons_self, hrule]

theorem newline_notMem_shownRule (n : Nat) : '\n' ∉ shownRule n := by
  rw [shownRule, List.mem_cons, not_or, List.mem_flatten]
  refine ⟨by decide, ?_⟩
  rintro ⟨piece, hpiece, hmem⟩
  rw [List.eq_of_mem_replicate hpiece] at hmem
  exact absurd hmem (by decide)

theorem shownRule_injective {n k : Nat} (h : shownRule n = shownRule k) : n = k := by
  have hcount := congrArg (·.count '|') h
  simpa [count_bar_shownRule] using hcount

theorem count_flatten_eq_zero {ls : List (List Char)} {c : Char} : ls.flatten.count c = 0 ↔ ∀ l ∈ ls, c ∉ l := by
  rw [List.count_eq_zero, List.mem_flatten]
  constructor
  · intro h l hl hc
    exact h ⟨l, hl, hc⟩
  · rintro h ⟨l, hl, hc⟩
    exact h l hl hc

theorem count_newline_joinLines {ls : List (List Char)} (hne : ls ≠ []) :
    (joinLines ls).count '\n' + 1 = ls.flatten.count '\n' + ls.length := by
  induction ls with
  | nil => exact absurd rfl hne
  | cons l ls ih =>
    by_cases hls : ls = []
    · subst hls
      simp
    · rw [joinLines_cons l hls, List.count_append, List.count_cons_self, Nat.add_assoc, ih hls, List.flatten_cons,
        List.count_append, List.length_cons]
      omega

theorem IsTable.length_splitOn {columns rows : Nat} {text : String} (h : IsTable columns rows text) :
    (splitOn ['\n'] text.toList).length = rows + 2 := by
  obtain ⟨titles, body, hsplit, hbody, -⟩ := h
  rw [hsplit, List.length_cons, List.length_cons, hbody]

/-- Lines below a rule are a table if they have all the bars of its columns and no more, and no line feeds. -/
theorem isTable_joinLines_iff {titles : List Char} {n : Nat} {body : List (List Char)} {text : String}
    (htext : text.toList = joinLines (titles :: shownRule n :: body)) :
    (∃ columns, IsTable columns body.length text) ↔
      ∀ line ∈ titles :: shownRule n :: body, line.count '|' = n + 1 ∧ '\n' ∉ line := by
  have hsplit : (∀ line ∈ titles :: shownRule n :: body, '\n' ∉ line) →
      splitOn ['\n'] text.toList = titles :: shownRule n :: body := by
    intro hlines
    rw [htext]
    exact splitOn_intercalate (List.cons_ne_nil _ _) hlines
  constructor
  · rintro ⟨columns, h⟩
    have hlines : ∀ line ∈ titles :: shownRule n :: body, '\n' ∉ line := by
      have hlength := h.length_splitOn
      have hcount := count_newline_joinLines (List.cons_ne_nil titles (shownRule n :: body))
      rw [Text.length_splitOn, htext, hcount, List.length_cons, List.length_cons] at hlength
      exact count_flatten_eq_zero.mp (by omega)
    obtain ⟨titles', body', hsplit', -, hbars⟩ := h
    rw [hsplit hlines, List.cons.injEq, List.cons.injEq] at hsplit'
    obtain ⟨rfl, hrule, rfl⟩ := hsplit'
    obtain rfl := shownRule_injective hrule
    exact fun line hline => ⟨hbars line hline, hlines line hline⟩
  · intro h
    exact ⟨n, titles, body, hsplit fun line hline => (h line hline).2, rfl, fun line hline => (h line hline).1⟩

/-! ## Lines of laid out rows -/

theorem count_padded {kind : CellKind} {shown cell : List Char} (h : Padded kind shown cell) {c : Char} (hc : c ≠ ' ') :
    cell.count c = shown.count c := by
  obtain ⟨left, right, rfl, -⟩ := h
  simp [List.count_replicate, Ne.symm hc]

def Grid.lineOf (grid : Grid) (row : List String) : List Char :=
  if isDivider row then barRow [[dividerMark]] else barRow (grid.placedRow row)

section Lines
variable {grid : Grid}

theorem mem_dataRows {row : List String} : row ∈ grid.dataRows ↔ row ∈ grid.rows ∧ isDivider row = false := by
  rw [Grid.dataRows, List.mem_filter, Bool.not_eq_true']

theorem exists_width_eq {row : List String} (hrow : row ∈ grid.dataRows) :
    ∃ first ∈ grid.rows, grid.width = first.length := by
  obtain ⟨first, rest, hdata⟩ := List.exists_cons_of_ne_nil (List.ne_nil_of_mem hrow)
  refine ⟨first, (mem_dataRows.mp (hdata ▸ List.mem_cons_self : first ∈ grid.dataRows)).1, ?_⟩
  rw [Grid.width, hdata, List.headD_cons]

theorem exists_mem_dataRows (hwidth : grid.width ≠ 0) : ∃ row, row ∈ grid.dataRows := by
  refine List.exists_mem_of_ne_nil _ fun hnil => hwidth ?_
  rw [Grid.width, hnil]
  rfl

theorem notMem_titlesFor {c : Char} (h : ∀ title ∈ grid.header, c ∉ title.toList) (count i : Nat) :
    c ∉ (titlesFor count grid.header).getD i [] := by
  intro hmem
  rw [List.getD_eq_getElem?_getD] at hmem
  cases hi : (titlesFor count grid.header)[i]? with
  | none =>
    rw [hi] at hmem
    cases hmem
  | some title =>
    rw [hi, Option.getD_some] at hmem
    rcases List.mem_append.mp (List.mem_of_mem_take (List.mem_of_getElem? hi)) with htitle | htitle
    · rw [List.eq_of_mem_replicate htitle] at hmem
      cases hmem
    · obtain ⟨name, hname, rfl⟩ := List.mem_map.mp htitle
      exact h name hname hmem

theorem notMem_title {c : Char} (hc : c ≠ ' ') (h : ∀ title ∈ grid.header, c ∉ title.toList) :
    ∀ column ∈ grid.shownColumns, c ∉ column.title := by
  have haligned : ∀ column : Column, c ∉ column.title → c ∉ column.aligned.title := by
    intro column hcolumn
    rwa [← List.count_eq_zero, count_padded column.title_aligned hc, List.count_eq_zero]
  unfold Grid.shownColumns
  split
  · refine List.forall_mem_map.mpr fun title htitle => haligned _ (h title htitle)
  · refine List.forall_mem_map.mpr fun i _ => haligned _ (notMem_titlesFor h grid.width i)

variable (hrows : ∀ row ∈ grid.rows, row ≠ [])
include hrows

theorem width_ne_zero {row : List String} (hrow : row ∈ grid.dataRows) : grid.width ≠ 0 := by
  obtain ⟨first, hfirst, hwidth⟩ := exists_width_eq hrow
  rw [hwidth]
  exact fun hlength => hrows first hfirst (List.length_eq_zero_iff.mp hlength)

theorem rowLines_eq : grid.rowLines = grid.rows.map grid.lineOf := by
  by_cases hwidth : grid.width = 0
  · -- Rows with cells are dividers if there are no columns.
    have hdividers : ∀ row ∈ grid.rows, isDivider row = true := by
      intro row hrow
      by_contra hdivider
      exact width_ne_zero hrows (mem_dataRows.mpr ⟨hrow, Bool.eq_false_iff.mpr hdivider⟩) hwidth
    rw [Grid.rowLines, if_pos hwidth, List.filter_eq_self.mpr hdividers]
    refine List.map_congr_left fun row hrow => ?_
    rw [Grid.lineOf, if_pos (hdividers row hrow)]
  · rw [Grid.rowLines, if_neg hwidth]
    rfl

theorem count_lineOf {c : Char} (hblank : c ≠ ' ') (hdash : c ≠ '-') {row : List String} (hrow : row ∈ grid.dataRows) :
    (tidy (grid.lineOf row)).count c =
      (if c = '|' then grid.shownColumns.length + 1 else 0) + (grid.shownRow row).flatten.count c := by
  have hwidth := width_ne_zero hrows hrow
  have hplaced : grid.placedRow row ≠ [] := by simpa [Grid.placedRow] using hwidth
  have hlength : (grid.placedRow row).length = grid.shownColumns.length := by
    rw [Grid.placedRow, Grid.shownColumns, if_neg hwidth, List.length_map, List.length_map]
  have hcells : (grid.placedRow row).flatten.count c = (grid.shownRow row).flatten.count c := by
    unfold Grid.placedRow Grid.shownRow
    induction List.range grid.width with
    | nil => rfl
    | cons i rest ih =>
      rw [List.map_cons, List.map_cons, List.flatten_cons, List.flatten_cons, List.count_append, List.count_append, ih,
        count_padded (padded_placed i row) hblank]
  rw [Grid.lineOf, (mem_dataRows.mp hrow).2, if_neg Bool.false_ne_true, count_tidy hblank hdash,
    count_barRow hblank hplaced, hlength, hcells]

/-- The line of a row has the bars of the columns and no others, and no line feeds. -/
theorem lineOf_iff {row : List String} (hrow : row ∈ grid.rows) :
    (tidy (grid.lineOf row)).count '|' = grid.shownColumns.length + 1 ∧ '\n' ∉ tidy (grid.lineOf row) ↔
      if isDivider row then grid.shownColumns.length = 1
      else ∀ cell ∈ grid.shownRow row, '|' ∉ cell ∧ '\n' ∉ cell := by
  cases hdivider : isDivider row with
  | true =>
    have hbars : (tidy (grid.lineOf row)).count '|' = 2 := by
      rw [Grid.lineOf, hdivider, if_pos rfl]
      decide
    have hnewline : '\n' ∉ tidy (grid.lineOf row) := by
      rw [Grid.lineOf, hdivider, if_pos rfl]
      decide
    rw [hbars, and_iff_left hnewline, if_pos rfl]
    omega
  | false =>
    have hdata := mem_dataRows.mpr ⟨hrow, hdivider⟩
    rw [← List.count_eq_zero (a := '\n'), count_lineOf hrows (by decide) (by decide) hdata, if_pos rfl,
      count_lineOf hrows (by decide) (by decide) hdata, if_neg (by decide), Nat.zero_add, count_flatten_eq_zero,
      Nat.add_eq_left, count_flatten_eq_zero, if_neg Bool.false_ne_true]
    exact forall₂_and.symm

end Lines

/-- A table without anything that breaks its lines: no line feeds are shown, and rows that divide it only where a row
has one column. -/
structure Grid.IsEven (grid : Grid) : Prop where
  noNewline : ∀ row ∈ grid.dataRows, ∀ cell ∈ grid.shownRow row, '\n' ∉ cell
  divider : ∀ row ∈ grid.rows, isDivider row = true → grid.shownColumns.length = 1

theorem titleLine_plain {grid : Grid} (hheader : grid.header ≠ [])
    (htitles : ∀ title ∈ grid.header, '|' ∉ title.toList ∧ '\n' ∉ title.toList) :
    (tidy (barRow (grid.shownColumns.map (·.title)))).count '|' = grid.shownColumns.length + 1 ∧
      '\n' ∉ tidy (barRow (grid.shownColumns.map (·.title))) := by
  have hne : grid.shownColumns.map (·.title) ≠ [] := fun e => shownColumns_ne_nil hheader (List.map_eq_nil_iff.mp e)
  have hbars : ∀ title ∈ grid.shownColumns.map (·.title), '|' ∉ title :=
    List.forall_mem_map.mpr (notMem_title (by decide) fun title ht => (htitles title ht).1)
  have hnewlines : ∀ title ∈ grid.shownColumns.map (·.title), '\n' ∉ title :=
    List.forall_mem_map.mpr (notMem_title (by decide) fun title ht => (htitles title ht).2)
  rw [← List.count_eq_zero (a := '\n'), count_tidy (by decide) (by decide), count_tidy (by decide) (by decide),
    count_barRow (by decide) hne, count_barRow (by decide) hne, count_flatten_eq_zero.mpr hbars,
    count_flatten_eq_zero.mpr hnewlines, List.length_map]
  exact ⟨rfl, rfl⟩

theorem toList_markdown {grid : Grid} (hheader : grid.header ≠ []) (hrows : ∀ row ∈ grid.rows, row ≠ [])
    {text : String} (h : markdown grid = .ok text) :
    text.toList = joinLines (tidy (barRow (grid.shownColumns.map (·.title))) :: shownRule grid.shownColumns.length ::
      grid.rows.map fun row => tidy (grid.lineOf row)) := by
  obtain ⟨-, rfl⟩ := markdown_eq_ok.mp h
  rw [String.toList_ofList, tidy_joinLines, Grid.titleLines, if_neg hheader, rowLines_eq hrows, List.map_append,
    List.map_cons, List.map_singleton, tidy_rule hheader, List.map_map]
  rfl

/-- What is written of a table is one if its lines are even and there are no bars in its cells. -/
theorem isTable_markdown_iff {grid : Grid} (hheader : grid.header ≠ [])
    (htitles : ∀ title ∈ grid.header, '|' ∉ title.toList ∧ '\n' ∉ title.toList)
    (hrows : ∀ row ∈ grid.rows, row ≠ []) {text : String} (h : markdown grid = .ok text) :
    (∃ columns, IsTable columns grid.rows.length text) ↔
      (∀ row ∈ grid.dataRows, ∀ cell ∈ grid.shownRow row, '|' ∉ cell) ∧ grid.IsEven := by
  have hiff := isTable_joinLines_iff (toList_markdown hheader hrows h)
  rw [List.length_map] at hiff
  rw [hiff, List.forall_mem_cons, List.forall_mem_cons, List.forall_mem_map,
    and_iff_right (titleLine_plain hheader htitles),
    and_iff_right ⟨count_bar_shownRule _, newline_notMem_shownRule _⟩]
  constructor
  · intro hall
    have hrow : ∀ row ∈ grid.dataRows, ∀ cell ∈ grid.shownRow row, '|' ∉ cell ∧ '\n' ∉ cell := by
      intro row hrow
      obtain ⟨hmem, hdivider⟩ := mem_dataRows.mp hrow
      have hline := (lineOf_iff hrows hmem).mp (hall row hmem)
      rwa [hdivider, if_neg Bool.false_ne_true] at hline
    refine ⟨fun row hdata cell hcell => (hrow row hdata cell hcell).1,
      ⟨fun row hdata cell hcell => (hrow row hdata cell hcell).2, fun row hmem hdivider => ?_⟩⟩
    have hline := (lineOf_iff hrows hmem).mp (hall row hmem)
    rwa [hdivider, if_pos rfl] at hline
  · rintro ⟨hbars, heven⟩ row hmem
    refine (lineOf_iff hrows hmem).mpr ?_
    split
    · next hdivider => exact heven.divider row hmem hdivider
    · next hdivider =>
      have hdata := mem_dataRows.mpr ⟨hmem, Bool.eq_false_iff.mpr hdivider⟩
      exact fun cell hcell => ⟨hbars row hdata cell hcell, heven.noNewline row hdata cell hcell⟩

theorem not_isTable_of_header_eq_nil {grid : Grid} (hheader : grid.header = []) (hrows : ∀ row ∈ grid.rows, row = [])
    {text : String} (h : markdown grid = .ok text) (columns rows : Nat) : ¬ IsTable columns rows text := by
  obtain ⟨-, rfl⟩ := markdown_eq_ok.mp h
  have hwidth : grid.width = 0 := by
    by_contra hwidth
    obtain ⟨row, hrow⟩ := exists_mem_dataRows hwidth
    obtain ⟨first, hfirst, hlength⟩ := exists_width_eq hrow
    rw [hrows first hfirst] at hlength
    exact hwidth hlength
  have hlines : grid.rowLines = [] := by
    rw [Grid.rowLines, if_pos hwidth, List.map_eq_nil_iff, List.filter_eq_nil_iff]
    intro row hrow
    rw [hrows row hrow]
    decide
  intro htable
  have hlength := htable.length_splitOn
  rw [Grid.titleLines, if_pos hheader, hlines, String.toList_ofList] at hlength
  exact absurd hlength (by change 1 ≠ _; omega)

theorem not_isTable_of_rows_eq_nil {grid : Grid} (hheader : grid.header ≠ [])
    (htitles : ∀ title ∈ grid.header, '|' ∉ title.toList ∧ '\n' ∉ title.toList) (hrows : grid.rows = [])
    {text : String} (h : markdown grid = .ok text) {rows : Nat} (hne : rows ≠ 0) (columns : Nat) :
    ¬ IsTable columns rows text := by
  have hnone : ∀ row, row ∉ grid.rows := fun row => hrows ▸ List.not_mem_nil
  have hiff := isTable_markdown_iff hheader htitles (fun row hrow => absurd hrow (hnone row)) h
  obtain ⟨columns', htable⟩ := hiff.mpr ⟨fun row hrow => absurd (mem_dataRows.mp hrow).1 (hnone row),
    ⟨fun row hrow => absurd (mem_dataRows.mp hrow).1 (hnone row), fun row hrow => absurd hrow (hnone row)⟩⟩
  intro htable'
  have hlength := htable.length_splitOn.symm.trans htable'.length_splitOn
  rw [hrows, List.length_nil] at hlength
  omega

/-! ## Shown cells of rows -/

section Cells
variable {grid : Grid} {row : List String}

theorem isInRows_of_mem_shownRow {c : Char} (hc : isNumeral c = false) (hrow : row ∈ grid.rows) {cell : List Char}
    (hcell : cell ∈ grid.shownRow row) (hmem : c ∈ cell) : IsInRows grid.rows c := by
  obtain ⟨i, -, rfl⟩ := List.mem_map.mp hcell
  have htext := mem_of_mem_shownCell hc hmem
  rw [cellAt, List.getD_eq_getElem?_getD] at htext
  cases hi : row[i]? with
  | none =>
    rw [hi] at htext
    exact absurd htext List.not_mem_nil
  | some text =>
    rw [hi, Option.getD_some] at htext
    exact ⟨row, hrow, text, List.mem_of_getElem? hi, htext⟩

theorem exists_bar_mem_shownRow (hformats : grid.HasFormats) (hrow : row ∈ grid.dataRows)
    (hlength : row.length = grid.width) {text : String} (htext : text ∈ row) (hmem : '|' ∈ text.toList) :
    ∃ cell ∈ grid.shownRow row, '|' ∈ cell := by
  obtain ⟨i, hi, rfl⟩ := List.getElem_of_mem htext
  refine ⟨_, List.mem_map_of_mem (List.mem_range.mpr (hlength ▸ hi)), ?_⟩
  refine (bar_mem_shownCell (hformats i (hlength ▸ hi) row hrow)).mpr ?_
  rwa [cellAt, List.getD_eq_getElem?_getD, List.getElem?_eq_getElem hi]

theorem bar_notMem_divider (hlength : row.length ≤ 1) (hdivider : isDivider row = true) {text : String}
    (htext : text ∈ row) : '|' ∉ text.toList := by
  obtain ⟨cell, rfl⟩ : ∃ cell, row = [cell] := by
    refine List.length_eq_one_iff.mp (Nat.le_antisymm hlength ?_)
    exact List.length_pos_of_mem htext
  obtain rfl := List.mem_singleton.mp htext
  have hmark : String.singleton dividerMark = text := by simpa [isDivider] using hdivider
  rw [← hmark]
  decide

section Lengths
variable {n : Nat} (hlength : ∀ row ∈ grid.rows, row.length = n)
include hlength

theorem width_eq_of_mem (hrow : row ∈ grid.dataRows) : grid.width = n := by
  obtain ⟨first, hfirst, hwidth⟩ := exists_width_eq hrow
  rw [hwidth, hlength first hfirst]

theorem le_length_shownColumns (hheader : n ≤ grid.header.length) : n ≤ grid.shownColumns.length := by
  unfold Grid.shownColumns
  split
  · rwa [titleColumns, List.length_map]
  · next hwidth =>
    obtain ⟨row, hrow⟩ := exists_mem_dataRows hwidth
    rw [List.length_map, List.length_range]
    exact Nat.le_of_eq (width_eq_of_mem hlength hrow).symm

/-- If rows that divide a table have one cell only, bars are shown just where the cells have them. -/
theorem bar_notMem_shown_iff (hformats : grid.HasFormats) (hheader : n ≤ grid.header.length) (heven : grid.IsEven) :
    (∀ row ∈ grid.dataRows, ∀ cell ∈ grid.shownRow row, '|' ∉ cell) ↔ ¬ IsInRows grid.rows '|' := by
  constructor
  · rintro hshown ⟨row, hrow, text, htext, hmem⟩
    cases hdivider : isDivider row with
    | true =>
      have hone : row.length ≤ 1 := by
        rw [hlength row hrow, ← heven.divider row hrow hdivider]
        exact le_length_shownColumns hlength hheader
      exact bar_notMem_divider hone hdivider htext hmem
    | false =>
      have hdata := mem_dataRows.mpr ⟨hrow, hdivider⟩
      have hwidth : row.length = grid.width := (hlength row hrow).trans (width_eq_of_mem hlength hdata).symm
      obtain ⟨cell, hcell, hbar⟩ := exists_bar_mem_shownRow hformats hdata hwidth htext hmem
      exact hshown row hdata cell hcell hbar
  · intro hnone row hdata cell hcell hbar
    exact hnone (isInRows_of_mem_shownRow (by decide) (mem_dataRows.mp hdata).1 hcell hbar)

end Lengths

end Cells

/-! ## Tables of items -/

theorem ItemKind.titles_plain (kind : ItemKind) :
    ∀ f ∈ kind.rowModel.fields, '|' ∉ (titleOf f.name).toList ∧ '\n' ∉ (titleOf f.name).toList := by
  cases kind
  all_goals decide +kernel

theorem formatItems_eq_ok {α : Type} {settings : Settings} {m : RowModel α} {skip : List String}
    {items : Hcl.ItemTable α} (hne : items ≠ []) {text : String} (h : formatItems settings m skip items = .ok text) :
    ∃ grid, makeGrid settings m skip items = .ok grid ∧ markdown grid = .ok text := by
  obtain ⟨-, -, h⟩ := bind_eq_ok.mp h
  split at h
  · cases h
  · rw [if_neg (by simpa using hne)] at h
    exact bind_eq_ok.mp h

theorem isEven_of_texts {α : Type} {settings : Settings} {m : RowModel α} {skip : List String}
    {items : Hcl.ItemTable α} {grid : Grid} (h : makeGrid settings m skip items = .ok grid)
    (hnewline : ¬ IsInTexts settings (m.shown skip) items '\n')
    (hmark : ¬ IsInTexts settings (m.shown skip) items dividerMark) : grid.IsEven where
  noNewline row hrow cell hcell hmem :=
    hnewline (isInTexts_of_isInRows (by decide) h
      (isInRows_of_mem_shownRow (by decide) (mem_dataRows.mp hrow).1 hcell hmem))
  divider row hrow hdivider := by
    refine absurd (isInTexts_of_isInRows (by decide) h ⟨row, hrow, String.singleton dividerMark, ?_, ?_⟩) hmark
    · rw [isDivider, List.contains_iff_mem] at hdivider
      exact List.mem_of_mem_take hdivider
    · rw [String.toList_singleton]
      exact List.mem_singleton_self _

/-- Without a column there are no titles and no cells, or else no rows. -/
theorem not_isTable_of_keptFields_eq_nil {α : Type} {settings : Settings} {m : RowModel α} {skip : List String}
    {items : Hcl.ItemTable α} (hne : items ≠ []) {grid : Grid} (h : makeGrid settings m skip items = .ok grid)
    (htitles : ∀ title ∈ grid.header, '|' ∉ title.toList ∧ '\n' ∉ title.toList)
    (hkept : keptFields settings (m.shown skip) items = []) {text : String} (hmarkdown : markdown grid = .ok text)
    (columns : Nat) : ¬ IsTable columns items.length text := by
  by_cases hnil : grid.header = []
  · refine not_isTable_of_header_eq_nil hnil (fun row hrow => ?_) hmarkdown _ _
    rw [← List.length_eq_zero_iff, length_of_mem_rows h hrow, hkept, List.length_nil]
  · obtain ⟨hheader, ⟨hrows, -⟩ | ⟨-, -, -, hkept'⟩⟩ := makeGrid_rows h
    · have hitems : items.length ≠ 0 := fun e => hne (List.length_eq_zero_iff.mp e)
      exact not_isTable_of_rows_eq_nil hnil htitles hrows hmarkdown hitems _
    · refine absurd hkept (hkept' fun e => hnil ?_)
      rw [hheader, e, List.map_nil]

/-- What is written of some items is a table with a line for each of them just if it has a column, no shown text has a
bar and all lines are even. They are even if no shown text has a line feed or the mark of a divider. -/
theorem formatItems_isTable_iff (kind : ItemKind) {settings : Settings} {skip : List String}
    {items : Hcl.ItemTable kind.Fields} {text : String} (hne : items ≠ [])
    (h : formatItems settings kind.rowModel skip items = .ok text) :
    ∃ grid, makeGrid settings kind.rowModel skip items = .ok grid ∧
      ((∃ columns, IsTable columns items.length text) ↔
        keptFields settings (kind.rowModel.shown skip) items ≠ [] ∧
          ¬ IsInTexts settings (kind.rowModel.shown skip) items '|' ∧ grid.IsEven) ∧
      (¬ IsInTexts settings (kind.rowModel.shown skip) items '\n' →
        ¬ IsInTexts settings (kind.rowModel.shown skip) items dividerMark → grid.IsEven) := by
  obtain ⟨grid, hgrid, hmarkdown⟩ := formatItems_eq_ok hne h
  refine ⟨grid, hgrid, ?_, isEven_of_texts hgrid⟩
  have hheader := (makeGrid_rows hgrid).1
  have htitles : ∀ title ∈ grid.header, '|' ∉ title.toList ∧ '\n' ∉ title.toList := by
    rw [hheader]
    exact List.forall_mem_map.mpr fun f hf => kind.titles_plain f (List.mem_filter.mp hf).1
  have hlength : ∀ row ∈ grid.rows, row.length = (keptFields settings (kind.rowModel.shown skip) items).length :=
    fun row hrow => length_of_mem_rows hgrid hrow
  have hle : (keptFields settings (kind.rowModel.shown skip) items).length ≤ grid.header.length := by
    rw [hheader, List.length_map]
    exact keptFields_sublist.length_le
  by_cases hkept : keptFields settings (kind.rowModel.shown skip) items = []
  · refine iff_of_false ?_ fun hplain => hplain.1 hkept
    rintro ⟨columns, htable⟩
    exact not_isTable_of_keptFields_eq_nil hne hgrid htitles hkept hmarkdown columns htable
  · have hrows : ∀ row ∈ grid.rows, row ≠ [] := by
      rintro _ hrow rfl
      exact hkept (List.length_eq_zero_iff.mp (hlength [] hrow).symm)
    have hne' : grid.header ≠ [] := by
      intro hnil
      rw [hnil, List.length_nil, Nat.le_zero, List.length_eq_zero_iff] at hle
      exact hkept hle
    have hiff := isTable_markdown_iff hne' htitles hrows hmarkdown
    rw [length_rows hgrid hkept] at hiff
    rw [hiff, and_iff_right hkept]
    refine and_congr_left fun heven => ?_
    rw [bar_notMem_shown_iff hlength (markdown_eq_ok.mp hmarkdown).1 hle heven, not_iff_not]
    exact ⟨isInTexts_of_isInRows (by decide) hgrid, isInRows_of_isInTexts (by decide) (by decide) hgrid⟩

/-- An output with a description of two lines and a condition with a message. -/
def guardedOutput (message : String) : String × Hcl.Item Hcl.OutputFields :=
  ("a",
    { data := { value := some "1", description := "First.\nSecond.", precondition := [⟨"var.a", message⟩] }
      loc := 1
      block := "output \"a\" \x7b\n  value = 1\n\x7d"
      file := Path.ofText "main.tf" })

def guardedGrid (message : String) : Grid where
  header := ["Name", "Description", "Value", "Precondition", "Postcondition"]
  rows := [["<a href=\"/main.tf#L1\" name=\"a\">a</a>", "First.<br/>Second.", "<pre>1</pre>",
    "<ul><li>" ++ message ++ "</li></ul>"]]

/-- The lines of a description become line breaks, so that the output has one line. -/
theorem formatItems_isTable_guarded :
    ∃ text, formatItems plainSettings outputRow [] [guardedOutput "No a."] = .ok text ∧
      ∃ columns, IsTable columns 1 text := by
  have hok : (formatItems plainSettings outputRow [] [guardedOutput "No a."]).isOk = true := by decide +kernel
  have hkept : (keptFields plainSettings (outputRow.shown []) [guardedOutput "No a."]).isEmpty ≠ true := by
    decide +kernel
  have hbar : ¬ IsInTexts plainSettings (outputRow.shown []) [guardedOutput "No a."] '|' := by decide +kernel
  have hnewline : ¬ IsInTexts plainSettings (outputRow.shown []) [guardedOutput "No a."] '\n' := by decide +kernel
  have hmark : ¬ IsInTexts plainSettings (outputRow.shown []) [guardedOutput "No a."] dividerMark := by decide +kernel
  obtain ⟨text, htext⟩ := exists_of_isOk hok
  obtain ⟨grid, -, htable, heven⟩ := formatItems_isTable_iff .outputs (List.cons_ne_nil _ _) htext
  exact ⟨text, htext, htable.mpr ⟨fun e => hkept (List.isEmpty_iff.mpr e), hbar, heven hnewline hmark⟩⟩

theorem not_isTable_guarded {message text : String}
    (hgrid : makeGrid plainSettings outputRow [] [guardedOutput message] = .ok (guardedGrid message))
    (hshown : ∃ row ∈ (guardedGrid message).dataRows, ∃ cell ∈ (guardedGrid message).shownRow row,
      '|' ∈ cell ∨ '\n' ∈ cell)
    (h : formatItems plainSettings outputRow [] [guardedOutput message] = .ok text) (columns : Nat) :
    ¬ IsTable columns 1 text := by
  obtain ⟨grid, hgrid', hmarkdown⟩ := formatItems_eq_ok (List.cons_ne_nil _ _) h
  obtain rfl := Except.ok.inj (hgrid.symm.trans hgrid')
  have htitles : ∀ title ∈ ["Name", "Description", "Value", "Precondition", "Postcondition"],
      '|' ∉ title.toList ∧ '\n' ∉ title.toList := by decide
  have hrows : ∀ row ∈ (guardedGrid message).rows, row ≠ [] :=
    List.forall_mem_singleton.mpr (List.cons_ne_nil _ _)
  intro htable
  obtain ⟨hbars, heven⟩ := (isTable_markdown_iff (List.cons_ne_nil _ _) htitles hrows hmarkdown).mp ⟨columns, htable⟩
  obtain ⟨row, hrow, cell, hcell, hbar | hnewline⟩ := hshown
  · exact hbars row hrow cell hcell hbar
  · exact heven.noNewline row hrow cell hcell hnewline

/-- A message of two lines breaks the line of its output in two, and one with bars adds them to those of the table. -/
theorem formatItems_not_isTable :
    (∃ text, formatItems plainSettings outputRow [] [guardedOutput "No a.\nNo b."] = .ok text ∧
      ∀ columns, ¬ IsTable columns 1 text) ∧
    ∃ text, formatItems plainSettings outputRow [] [guardedOutput "a || b"] = .ok text ∧
      ∀ columns, ¬ IsTable columns 1 text := by
  have hgrids : ∀ message ∈ ["No a.\nNo b.", "a || b"],
      makeGrid plainSettings outputRow [] [guardedOutput message] = .ok (guardedGrid message) := by decide +kernel
  have hok : ∀ message ∈ ["No a.\nNo b.", "a || b"],
      (formatItems plainSettings outputRow [] [guardedOutput message]).isOk = true := by decide +kernel
  have hshown : ∀ message ∈ ["No a.\nNo b.", "a || b"], ∃ row ∈ (guardedGrid message).dataRows,
      ∃ cell ∈ (guardedGrid message).shownRow row, '|' ∈ cell ∨ '\n' ∈ cell := by decide +kernel
  have hbroken : ∀ message ∈ ["No a.\nNo b.", "a || b"],
      ∃ text, formatItems plainSettings outputRow [] [guardedOutput message] = .ok text ∧
        ∀ columns, ¬ IsTable columns 1 text := by
    intro message hmessage
    obtain ⟨text, htext⟩ := exists_of_isOk (hok message hmessage)
    exact ⟨text, htext, not_isTable_guarded (hgrids message hmessage) (hshown message hmessage) htext⟩
  exact ⟨hbroken _ List.mem_cons_self, hbroken _ (List.mem_cons_of_mem _ List.mem_cons_self)⟩

end ModuleDocs
