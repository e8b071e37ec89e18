import ModuleDocs.Proofs.Sheet

/-! # Collapsing columns

A column is found by its title. In a table whose rows have a cell for each title, collapsing columns collapses
each cell as is chosen for its own title and touches no other (`Grid.Shows.foldlM_collapse_eq_ok`). In any table
the number of rows, their lengths and their first cells stay (`collapseAll_keeps`). -/
set_option autoImplicit false

namespace ModuleDocs

open Table

/-! ## One cell of a row -/

def collapseAt (threshold : Int) (keepFirst : Bool) (i : Nat) (row : List String) : Except Error (List String) :=
  match row[i]? with
  | none => .error .missingCell
  | some cell => do return row.set i (← collapseCell threshold keepFirst cell)

theorem collapseAt_eq_ok {threshold : Int} {keepFirst : Bool} {i : Nat} {row row' : List String} :
    collapseAt threshold keepFirst i row = .ok row' ↔
      ∃ cell text, row[i]? = some cell ∧ collapseCell threshold keepFirst cell = .ok text ∧ row' = row.set i text := by
  unfold collapseAt
  cases row[i]? with
  | none => simp
  | some cell =>
    simp only [bind_eq_ok, pure_eq_ok, Option.some.injEq]
    constructor
    · rintro ⟨text, htext, rfl⟩
      exact ⟨cell, text, rfl, htext, rfl⟩
    · rintro ⟨_, text, rfl, htext, rfl⟩
      exact ⟨text, htext, rfl⟩

theorem collapseColumn_eq (threshold : Int) (title : String) (keepFirst : Bool) (grid : Grid) :
    collapseColumn threshold title keepFirst grid =
      match grid.header.findIdx? (· == title) with
      | none => .ok grid
      | some i =>
        (grid.rows.mapM (collapseAt threshold keepFirst i)).map fun rows => { grid with rows } := by
  unfold collapseColumn
  cases grid.header.findIdx? (· == title) with
  | none => rfl
  | some i =>
    change (grid.rows.mapM (collapseAt threshold keepFirst i) >>= fun rows => pure { grid with rows }) =
      (grid.rows.mapM (collapseAt threshold keepFirst i)).map fun rows => { grid with rows }
    cases grid.rows.mapM (collapseAt threshold keepFirst i) <;> rfl

theorem collapse_eq_ok {settings : Settings} {title : String} {keepFirst : Bool} {grid grid' : Grid} :
    settings.collapse title keepFirst grid = .ok grid' ↔
      (grid.hasCell title = true → settings.ensure .threshold = .ok ()) ∧
        collapseColumn settings.format.collapsibleLongThreshold title keepFirst grid = .ok grid' := by
  unfold Settings.collapse
  by_cases h : grid.hasCell title
  · simp only [h, if_true, bind_eq_ok, true_imp_iff]
    constructor
    · rintro ⟨_, hensure, hgrid⟩
      exact ⟨hensure, hgrid⟩
    · rintro ⟨hensure, hgrid⟩
      exact ⟨(), hensure, hgrid⟩
  · simp only [h, Bool.false_eq_true, if_false, false_imp_iff, true_and]

/-! ## Tables with a cell for each title -/

/-- What becomes of a text below a title when columns are collapsed. -/
def collapseUnder (threshold : Int) (columns : List (String × Bool)) (title text : String) : Except Error String :=
  match columns.lookup title with
  | none => .ok text
  | some keepFirst => collapseCell threshold keepFirst text

theorem collapseUnder_of_notMem {threshold : Int} {columns : List (String × Bool)} {title : String}
    (h : title ∉ columns.map Prod.fst) (text : String) :
    collapseUnder threshold columns title text = .ok text := by
  have hnone : columns.lookup title = none := by
    rw [List.lookup_eq_none_iff]
    intro c hc
    exact bne_iff_ne.mpr fun e => h (List.mem_map.mpr ⟨c, hc, e.symm⟩)
  rw [collapseUnder, hnone]

theorem collapseUnder_cons_self (threshold : Int) (c : String × Bool) (columns : List (String × Bool))
    (text : String) : collapseUnder threshold (c :: columns) c.1 text = collapseCell threshold c.2 text := by
  rw [collapseUnder, List.lookup_cons_self]

/-- Collapsing one column and then others, if none of them is collapsed twice. -/
theorem collapseUnder_cons {threshold : Int} {c : String × Bool} {columns : List (String × Bool)}
    (hc : c.1 ∉ columns.map Prod.fst) (title text : String) :
    (collapseUnder threshold [c] title text >>= collapseUnder threshold columns title) =
      collapseUnder threshold (c :: columns) title text := by
  by_cases h : title = c.1
  · subst h
    rw [collapseUnder_cons_self, collapseUnder_cons_self]
    cases collapseCell threshold c.2 text with
    | error e => rfl
    | ok text' => exact collapseUnder_of_notMem hc text'
  · have hskip : (c :: columns).lookup title = columns.lookup title := by
      obtain ⟨name, keepFirst⟩ := c
      rw [List.lookup_cons, beq_eq_false_iff_ne.mpr h]
    rw [collapseUnder_of_notMem (by simpa using h), ok_bind, collapseUnder, collapseUnder, hskip]

theorem bind_collapseUnder_of_ne {threshold : Int} {c : String × Bool} {title : String} (h : title ≠ c.1)
    (cell : Except Error String) : cell >>= collapseUnder threshold [c] title = cell := by
  cases cell with
  | error e => rfl
  | ok text => exact collapseUnder_of_notMem (by simpa using h) text

section Shown
variable {α β : Type} {title : β → String} {fields : List β} {items : List α}
  {cell : α → β → Except Error String}

/-- A table that has a row for each item, and in it what the item has in each field. -/
structure Grid.Shows (title : β → String) (fields : List β) (items : List α)
    (cell : α → β → Except Error String) (grid : Grid) : Prop where
  header : grid.header = fields.map title
  rows : items.mapM (fun e => fields.mapM (cell e)) = .ok grid.rows

theorem Grid.Shows.unique {grid grid' : Grid} (h : grid.Shows title fields items cell)
    (h' : grid'.Shows title fields items cell) : grid = grid' := by
  cases grid
  cases grid'
  cases h.header.trans h'.header.symm
  cases h.rows.symm.trans h'.rows
  rfl

theorem exists_shows :
    (∃ grid : Grid, grid.Shows title fields items cell) ↔ ∀ e ∈ items, ∀ f ∈ fields, ∃ text, cell e f = .ok text := by
  have hrows : (∃ rows, items.mapM (fun e => fields.mapM (cell e)) = .ok rows) ↔
      ∀ e ∈ items, ∀ f ∈ fields, ∃ text, cell e f = .ok text := by
    simp only [exists_mapM_eq_ok]
  rw [← hrows]
  constructor
  · rintro ⟨grid, hgrid⟩
    exact ⟨grid.rows, hgrid.rows⟩
  · rintro ⟨rows, hrows⟩
    exact ⟨⟨fields.map title, rows⟩, rfl, hrows⟩

theorem shows_congr {cell' : α → β → Except Error String} {grid : Grid}
    (h : ∀ e ∈ items, ∀ f ∈ fields, cell e f = cell' e f) :
    grid.Shows title fields items cell ↔ grid.Shows title fields items cell' := by
  have hrows : items.mapM (fun e => fields.mapM (cell e)) = items.mapM fun e => fields.mapM (cell' e) :=
    mapM_congr fun e he => mapM_congr (h e he)
  exact ⟨fun g => ⟨g.header, hrows.symm.trans g.rows⟩, fun g => ⟨g.header, hrows.trans g.rows⟩⟩

theorem Grid.Shows.width {grid : Grid} (h : grid.Shows title fields items cell) :
    ∀ row ∈ grid.rows, row.length = grid.header.length := by
  intro row hrow
  have hlengths : grid.rows.map List.length = items.map fun _ => fields.length :=
    map_eq_of_mapM (fun _ _ _ => length_of_mapM) h.rows
  obtain ⟨e, -, he⟩ := List.mem_map.mp (hlengths ▸ List.mem_map_of_mem (f := List.length) hrow)
  rw [h.header, List.length_map, ← he]

/-- In a row with a cell for each title, the cell below one title is collapsed. -/
theorem collapseAt_mapM {threshold : Int} {c : String × Bool} {cells : β → Except Error String} {i : Nat}
    {row row' : List String} (hnodup : (fields.map title).Nodup)
    (hi : (fields.map title).findIdx? (· == c.1) = some i) (hrow : fields.mapM cells = .ok row) :
    collapseAt threshold c.2 i row = .ok row' ↔
      fields.mapM (fun f => cells f >>= collapseUnder threshold [c] (title f)) = .ok row' := by
  induction fields generalizing i row row' with
  | nil => cases hi
  | cons f fields ih =>
    obtain ⟨hf, hnodup⟩ := List.nodup_cons.mp hnodup
    obtain ⟨text, htext, texts, htexts, e⟩ : ∃ text, cells f = .ok text ∧
        ∃ texts, fields.mapM cells = .ok texts ∧ text :: texts = row := by
      simpa only [List.mapM_cons, bind_eq_ok, pure_eq_ok] using hrow
    subst e
    simp only [List.mapM_cons, htext, ok_bind, bind_eq_ok, pure_eq_ok, collapseAt_eq_ok]
    rw [List.map_cons, List.findIdx?_cons] at hi
    by_cases htitle : title f = c.1
    · -- The cell is the first one, and no other cell has its title.
      rw [if_pos (by simpa using htitle)] at hi
      cases hi
      have hrest : fields.mapM (fun f => cells f >>= collapseUnder threshold [c] (title f)) = .ok texts := by
        rw [← htexts]
        refine mapM_congr fun g hg => bind_collapseUnder_of_ne (fun e => ?_) (cells g)
        exact hf (List.mem_map.mpr ⟨g, hg, e.trans htitle.symm⟩)
      simp only [htitle, collapseUnder_cons_self, hrest, List.getElem?_cons_zero, List.set_cons_zero,
        Option.some.injEq, Except.ok.injEq]
      constructor
      · rintro ⟨_, text', rfl, htext', rfl⟩
        exact ⟨text', htext', texts, rfl, rfl⟩
      · rintro ⟨text', htext', _, rfl, rfl⟩
        exact ⟨text, text', rfl, htext', rfl⟩
    · rw [if_neg (by simpa using htitle)] at hi
      obtain ⟨j, hj, rfl⟩ := Option.map_eq_some_iff.mp hi
      rw [collapseUnder_of_notMem (by simpa using htitle)]
      simp only [List.getElem?_cons_succ, List.set_cons_succ, Except.ok.injEq, exists_eq_left']
      constructor
      · rintro ⟨cell, text', hcell, htext', rfl⟩
        exact ⟨_, (ih hnodup hj htexts).mp (collapseAt_eq_ok.mpr ⟨cell, text', hcell, htext', rfl⟩), rfl⟩
      · rintro ⟨texts', htexts', rfl⟩
        obtain ⟨cell, text', hcell, htext', rfl⟩ := collapseAt_eq_ok.mp ((ih hnodup hj htexts).mpr htexts')
        exact ⟨cell, text', hcell, htext', rfl⟩

/-- Collapsing one column collapses the cells below its title and no others. -/
theorem Grid.Shows.collapseColumn_eq_ok {threshold : Int} {c : String × Bool} {grid grid' : Grid}
    (hgrid : grid.Shows title fields items cell) (hnodup : (fields.map title).Nodup) :
    collapseColumn threshold c.1 c.2 grid = .ok grid' ↔
      grid'.Shows title fields items fun e f => cell e f >>= collapseUnder threshold [c] (title f) := by
  rw [collapseColumn_eq, hgrid.header]
  cases hidx : (fields.map title).findIdx? (· == c.1) with
  | none =>
    have hsame : ∀ e ∈ items, ∀ f ∈ fields, cell e f >>= collapseUnder threshold [c] (title f) = cell e f := by
      intro e _ f hf
      have hne := List.findIdx?_eq_none_iff.mp hidx (title f) (List.mem_map_of_mem hf)
      exact bind_collapseUnder_of_ne (by simpa using hne) (cell e f)
    rw [shows_congr hsame, Except.ok.injEq]
    exact ⟨fun h => h ▸ hgrid, hgrid.unique⟩
  | some i =>
    have hrow : ∀ e row row', fields.mapM (cell e) = .ok row →
        (collapseAt threshold c.2 i row = .ok row' ↔
          fields.mapM (fun f => cell e f >>= collapseUnder threshold [c] (title f)) = .ok row') :=
      fun _ _ _ hrow => collapseAt_mapM hnodup hidx hrow
    simp only [map_eq_ok, mapM_mapM_eq_ok hrow hgrid.rows]
    constructor
    · rintro ⟨rows, hrows, rfl⟩
      exact ⟨rfl, hrows⟩
    · rintro ⟨hheader, hrows⟩
      refine ⟨grid'.rows, hrows, ?_⟩
      rw [← hheader]

theorem Grid.Shows.collapse_eq_ok {settings : Settings} (hs : settings.IsChecked) {c : String × Bool}
    {grid grid' : Grid} (hgrid : grid.Shows title fields items cell) (hnodup : (fields.map title).Nodup) :
    settings.collapse c.1 c.2 grid = .ok grid' ↔ grid'.Shows title fields items fun e f =>
      cell e f >>= collapseUnder settings.format.collapsibleLongThreshold [c] (title f) := by
  rw [ModuleDocs.collapse_eq_ok, ← hgrid.collapseColumn_eq_ok hnodup]
  exact and_iff_right fun _ => Settings.ensure_of_isChecked hs _

/-- Collapsing columns of different titles collapses each cell as its own title says. -/
theorem Grid.Shows.foldlM_collapse_eq_ok {settings : Settings} (hs : settings.IsChecked)
    {columns : List (String × Bool)} (hcolumns : (columns.map Prod.fst).Nodup) {grid grid' : Grid}
    (hgrid : grid.Shows title fields items cell) (hnodup : (fields.map title).Nodup) :
    columns.foldlM (fun grid c => settings.collapse c.1 c.2 grid) grid = .ok grid' ↔
      grid'.Shows title fields items fun e f =>
        cell e f >>= collapseUnder settings.format.collapsibleLongThreshold columns (title f) := by
  induction columns generalizing grid cell with
  | nil =>
    have hsame : (fun e f => cell e f >>= collapseUnder settings.format.collapsibleLongThreshold [] (title f)) =
        cell := by
      funext e f
      cases cell e f <;> rfl
    rw [hsame, List.foldlM_nil, pure_eq_ok]
    exact ⟨fun h => h ▸ hgrid, hgrid.unique⟩
  | cons c columns ih =>
    obtain ⟨hc, hcolumns⟩ := List.nodup_cons.mp hcolumns
    have hcons : (fun e f => (cell e f >>= collapseUnder settings.format.collapsibleLongThreshold [c] (title f)) >>=
          collapseUnder settings.format.collapsibleLongThreshold columns (title f)) =
        fun e f => cell e f >>= collapseUnder settings.format.collapsibleLongThreshold (c :: columns) (title f) := by
      funext e f
      rw [bind_assoc]
      exact congrArg _ (funext (collapseUnder_cons hc (title f)))
    rw [List.foldlM_cons, bind_eq_ok]
    constructor
    · rintro ⟨next, hnext, h⟩
      rw [← hcons]
      exact (ih hcolumns ((hgrid.collapse_eq_ok hs hnodup).mp hnext)).mp h
    · intro h
      rw [← hcons] at h
      -- Where the last cell can be computed, so can the one before this step.
      obtain ⟨next, hnext⟩ : ∃ next : Grid, next.Shows title fields items fun e f =>
          cell e f >>= collapseUnder settings.format.collapsibleLongThreshold [c] (title f) := by
        rw [exists_shows]
        intro e he f hf
        obtain ⟨text, htext⟩ := exists_shows.mp ⟨grid', h⟩ e he f hf
        obtain ⟨text', htext', -⟩ := bind_eq_ok.mp htext
        exact ⟨text', htext'⟩
      exact ⟨next, (hgrid.collapse_eq_ok hs hnodup).mpr hnext, (ih hcolumns hnext).mpr h⟩

end Shown

/-! ## What stays in any table -/

/-- The length of a row, and its first cell if it has one. -/
def shape (row : List String) : Nat × Option String := (row.length, row.head?)

theorem shape_collapseAt {threshold : Int} {keepFirst : Bool} {i : Nat} (hi : i ≠ 0) {row row' : List String}
    (h : collapseAt threshold keepFirst i row = .ok row') : shape row' = shape row := by
  obtain ⟨cell, text, -, -, rfl⟩ := collapseAt_eq_ok.mp h
  rw [shape, List.length_set, List.head?_eq_getElem?, List.getElem?_set_ne hi, ← List.head?_eq_getElem?, shape]

/-- Collapsing a column other than the first keeps the header, the number of rows and their shapes. -/
theorem collapse_keeps {settings : Settings} {title : String} {keepFirst : Bool} {grid grid' : Grid}
    (hfirst : grid.header.head? ≠ some title) (h : settings.collapse title keepFirst grid = .ok grid') :
    grid'.header = grid.header ∧ grid'.rows.map shape = grid.rows.map shape := by
  have h' := (collapse_eq_ok.mp h).2
  rw [collapseColumn_eq] at h'
  cases hidx : grid.header.findIdx? (· == title) with
  | none =>
    rw [hidx] at h'
    cases h'
    exact ⟨rfl, rfl⟩
  | some i =>
    rw [hidx] at h'
    obtain ⟨rows, hrows, rfl⟩ := map_eq_ok.mp h'
    have hi : i ≠ 0 := by
      rintro rfl
      obtain ⟨hlt, htitle, -⟩ := List.findIdx?_eq_some_iff_getElem.mp hidx
      have e : grid.header[0] = title := by simpa using htitle
      apply hfirst
      rw [List.head?_eq_getElem?, List.getElem?_eq_getElem hlt, e]
    exact ⟨rfl, map_eq_of_mapM (fun _ _ _ => shape_collapseAt hi) hrows⟩

/-- Collapsing any columns other than the first keeps the header, the number of rows and their shapes. -/
theorem foldlM_collapse_keeps {settings : Settings} {columns : List (String × Bool)} {grid grid' : Grid}
    (hfirst : ∀ c ∈ columns, grid.header.head? ≠ some c.1)
    (h : columns.foldlM (fun grid c => settings.collapse c.1 c.2 grid) grid = .ok grid') :
    grid'.header = grid.header ∧ grid'.rows.map shape = grid.rows.map shape := by
  induction columns generalizing grid with
  | nil =>
    cases h
    exact ⟨rfl, rfl⟩
  | cons c columns ih =>
    rw [List.foldlM_cons] at h
    obtain ⟨next, hnext, h⟩ := bind_eq_ok.mp h
    obtain ⟨hheader, hrows⟩ := collapse_keeps (hfirst c List.mem_cons_self) hnext
    obtain ⟨hheader', hrows'⟩ := ih (fun d hd => hheader ▸ hfirst d (List.mem_cons_of_mem c hd)) h
    exact ⟨hheader'.trans hheader, hrows'.trans hrows⟩

theorem collapsed_sublist (format : FormatSettings) : format.collapsed.Sublist
    [("Value", false), ("Type", false), ("Default", false), ("Description", true)] := by
  have hone : ∀ (flag : Bool) (c : String × Bool), (if flag then [c] else []).Sublist [c] := by
    intro flag c
    cases flag with
    | false => exact List.nil_sublist _
    | true => exact List.Sublist.refl _
  exact (((hone _ _).append (hone _ _)).append (hone _ _)).append (hone _ _)

/-- A table whose first column is that of the links keeps it when its columns are collapsed. -/
theorem collapseAll_keeps {settings : Settings} {grid grid' : Grid} (hfirst : grid.header.head? = some "Name")
    (h : settings.collapseAll grid = .ok grid') :
    grid'.header = grid.header ∧ grid'.rows.map shape = grid.rows.map shape := by
  refine foldlM_collapse_keeps (fun c hc e => ?_) h
  have hname : c.1 = "Name" := (Option.some.inj (e.symm.trans hfirst))
  have hmem := (collapsed_sublist settings.format).subset hc
  have hno : ∀ c ∈ [("Value", false), ("Type", false), ("Default", false), ("Description", true)],
      c.1 ≠ "Name" := by decide
  exact hno c hmem hname

/-- A table has a title for each shown field, and a row for each item that starts with the link to it. -/
theorem makeGrid_shape {α : Type} {settings : Settings} {m : RowModel α} (hm : m.IsLinked) {skip : List String}
    (hname : "name" ∉ skip) {items : Hcl.ItemTable α} {grid : Grid} (h : makeGrid settings m skip items = .ok grid) :
    grid.header = (m.shown skip).map (fun f => titleOf f.name) ∧
      grid.rows.map shape = (orderedItems settings items).map fun e =>
        ((keptFields settings (m.shown skip) items).length, some (linkText settings e)) := by
  obtain ⟨⟨first, hfirst, -⟩, htexts, -, hgrid⟩ := (makeGrid_eq_ok hm hname).mp h
  have hne : items ≠ [] := by
    rintro rfl
    cases hfirst
  obtain ⟨rest, hshown⟩ := hm.shown_eq hname
  have hhead : ((m.shown skip).map fun f => titleOf f.name).head? = some "Name" := by
    have htitle : titleOf "name" = "Name" := by decide +kernel
    rw [hshown, List.map_cons, List.head?_cons]
    exact congrArg some htitle
  obtain ⟨hheader, hrows⟩ := collapseAll_keeps hhead hgrid
  refine ⟨hheader, hrows.trans ?_⟩
  rw [hshown] at htexts
  obtain ⟨rest', hrest'⟩ := keptFields_cons hne htexts
  rw [hshown, hrest', List.map_map]
  refine List.map_congr_left fun e _ => ?_
  simp only [Function.comp_apply, shape, List.length_cons, List.length_map, List.map_cons, List.head?_cons, linkText]

end ModuleDocs
