import ModuleDocs.Proofs.Collapse

/-! # Alignment of tables

The header of a table names every shown field, while its rows have no cells for the fields that are left out
as empty. So each cell stands below the title of its own field only as long as no shown field is empty for all
items (`makeGrid_aligned_iff`). -/
set_option autoImplicit false

namespace ModuleDocs

variable {α : Type}

/-! ## Cells as they are shown -/

/-- Whether long texts of a field are collapsed, and if so, whether their first line stays outside. -/
def FormatSettings.collapses (format : FormatSettings) (name : String) : Option Bool :=
  match name with
  | "value" => if format.collapsibleLongValues then some false else none
  | "type" => if format.collapsibleLongTypes then some false else none
  | "default" => if format.collapsibleLongDefaults then some false else none
  | "description" => if format.collapsibleLongDescription then some true else none
  | _ => none

/-- The text of an item in a field, collapsed if texts of that field are. -/
def Field.shownCell (settings : Settings) (f : Field α) (e : String × Hcl.Item α) : Except Error String := do
  let text ← f.cell settings e.1 e.2
  match settings.format.collapses f.name with
  | none => return text
  | some keepFirst => Table.collapseCell settings.format.collapsibleLongThreshold keepFirst text

def fieldNames : List String :=
  ["name", "provider", "documentation", "precondition", "postcondition", "type", "description", "default",
    "validation", "value"]

theorem name_mem_fieldNames (kind : ItemKind) : ∀ f ∈ kind.rowModel.fields, f.name ∈ fieldNames := by
  cases kind
  all_goals decide

theorem lookup_collapsed (format : FormatSettings) :
    ∀ name ∈ fieldNames, format.collapsed.lookup (titleOf name) = format.collapses name := by
  unfold FormatSettings.collapsed FormatSettings.collapses
  generalize format.collapsibleLongValues = values
  generalize format.collapsibleLongTypes = types
  generalize format.collapsibleLongDefaults = defaults
  generalize format.collapsibleLongDescription = descriptions
  revert values types defaults descriptions
  decide +kernel

theorem nodup_collapsed (format : FormatSettings) : (format.collapsed.map Prod.fst).Nodup := by
  have hnodup : ["Value", "Type", "Default", "Description"].Nodup := by decide
  exact hnodup.sublist ((collapsed_sublist format).map Prod.fst)

theorem shownCell_eq {settings : Settings} {f : Field α} (hf : f.name ∈ fieldNames) (e : String × Hcl.Item α) :
    f.shownCell settings e = f.cell settings e.1 e.2 >>=
      collapseUnder settings.format.collapsibleLongThreshold settings.format.collapsed (titleOf f.name) := by
  refine congrArg _ (funext fun text => ?_)
  rw [collapseUnder, lookup_collapsed settings.format f.name hf]
  cases settings.format.collapses f.name <;> rfl

/-- In a table with a cell for each title, each cell is collapsed as its own field says. -/
theorem collapseAll_eq_ok {settings : Settings} (hs : settings.IsChecked) {fields : List (Field α)}
    (hnames : ∀ f ∈ fields, f.name ∈ fieldNames) (hnodup : (fields.map fun f => titleOf f.name).Nodup)
    {items : Hcl.ItemTable α} (htexts : HasTexts settings fields items) {grid : Grid} :
    settings.collapseAll
        { header := fields.map fun f => titleOf f.name
          rows := items.map fun e => fields.map (·.text settings e) } = .ok grid ↔
      grid.Shows (fun f => titleOf f.name) fields items fun e f => f.shownCell settings e := by
  have hgrid : Grid.Shows (fun f : Field α => titleOf f.name) fields items (fun e f => f.cell settings e.1 e.2)
      { header := fields.map fun f => titleOf f.name
        rows := items.map fun e => fields.map (·.text settings e) } :=
    ⟨rfl, mapM_cellsOf.mpr ⟨htexts, rfl⟩⟩
  rw [Settings.collapseAll, hgrid.foldlM_collapse_eq_ok hs (nodup_collapsed settings.format) hnodup]
  exact shows_congr fun e _ f hf => (shownCell_eq (hnames f hf) e).symm

/-! ## Aligned tables -/

/-- A table in which each row has a cell for each title, and in it what its item has in the field of that title.
Fields without a column are empty for all items and left out for that reason. -/
structure Grid.Aligned (settings : Settings) (shown : List (Field α)) (items : Hcl.ItemTable α) (grid : Grid) :
    Prop where
  width : ∀ row ∈ grid.rows, row.length = grid.header.length
  cells : ∃ (fields : List (Field α)) (order : Hcl.ItemTable α), fields.Sublist shown ∧ order.Perm items ∧
    grid.Shows (fun f => titleOf f.name) fields order (fun e f => f.shownCell settings e) ∧
    ∀ f ∈ shown, f ∉ fields →
      settings.format.removeEmptyColumns = true ∧ ∀ e ∈ items, f.cell settings e.1 e.2 = .ok ""

section Kept
variable {settings : Settings} {fields : List (Field α)} {items : Hcl.ItemTable α}

theorem keptFields_eq_self (htexts : HasTexts settings fields items) :
    keptFields settings fields items = fields ↔
      (settings.format.removeEmptyColumns = true → ∀ f ∈ fields, ∃ e ∈ items, f.cell settings e.1 e.2 ≠ .ok "") := by
  unfold keptFields
  split
  next h =>
    have hfilled : ∀ f ∈ fields, (_ ↔ _) := fun f hf => isFilled_iff htexts hf
    rw [List.filter_eq_self, forall₂_congr hfilled]
    exact ⟨fun hall _ => hall, fun hall => hall h⟩
  next h => exact iff_of_true rfl fun h' => absurd h' h

/-- A table whose rows are as wide as its header has a column for each shown field. -/
theorem keptFields_eq_of_width {m : RowModel α} (hm : m.IsLinked) {skip : List String} (hname : "name" ∉ skip)
    (hne : items ≠ []) {grid : Grid} (h : makeGrid settings m skip items = .ok grid)
    (hwidth : ∀ row ∈ grid.rows, row.length = grid.header.length) :
    keptFields settings (m.shown skip) items = m.shown skip := by
  obtain ⟨hheader, hrows⟩ := makeGrid_shape hm hname h
  obtain ⟨e, he⟩ := List.exists_mem_of_ne_nil items hne
  have hmem := List.mem_map_of_mem (f := fun e =>
    ((keptFields settings (m.shown skip) items).length, some (linkText settings e)))
    ((orderedItems_perm settings items).mem_iff.mpr he)
  rw [← hrows] at hmem
  obtain ⟨row, hrow, hshape⟩ := List.mem_map.mp hmem
  have hlength : row.length = (keptFields settings (m.shown skip) items).length := congrArg Prod.fst hshape
  rw [hwidth row hrow, hheader, List.length_map] at hlength
  exact keptFields_sublist.eq_of_length hlength.symm

end Kept

/-- Items of which every text can be computed have an aligned table exactly if none of its columns is left out as
empty and every cell can be collapsed where that is asked for. -/
theorem makeGrid_aligned_iff (kind : ItemKind) {settings : Settings} (hs : settings.IsChecked) {skip : List String}
    (hname : "name" ∉ skip) {items : Hcl.ItemTable kind.Fields} (hne : items ≠ [])
    (htexts : HasTexts settings kind.rowModel.fields items) :
    (∃ grid, makeGrid settings kind.rowModel skip items = .ok grid ∧
        grid.Aligned settings (kind.rowModel.shown skip) items) ↔
      (settings.format.removeEmptyColumns = true →
        ∀ f ∈ kind.rowModel.shown skip, ∃ e ∈ items, f.cell settings e.1 e.2 ≠ .ok "") ∧
      ∀ e ∈ items, ∀ f ∈ kind.rowModel.shown skip, ∃ text, f.shownCell settings e = .ok text := by
  have hm := kind.isLinked
  have hsub : ∀ f ∈ kind.rowModel.shown skip, f ∈ kind.rowModel.fields := fun f hf => (List.mem_filter.mp hf).1
  have hshown : HasTexts settings (kind.rowModel.shown skip) items := fun e he f hf => htexts e he f (hsub f hf)
  have hperm := orderedItems_perm settings items
  have hordered : HasTexts settings (kind.rowModel.shown skip) (orderedItems settings items) :=
    fun e he => hshown e (hperm.mem_iff.mp he)
  have hcollapse : ∀ grid : Grid, _ ↔ grid.Shows (fun f => titleOf f.name) (kind.rowModel.shown skip) _ _ :=
    fun _ => collapseAll_eq_ok hs (fun f hf => name_mem_fieldNames kind f (hsub f hf)) hm.nodup_shown hordered
  rw [← keptFields_eq_self hshown]
  constructor
  · rintro ⟨grid, hgrid, haligned⟩
    -- The header has a title for every shown field, so rows of its width have left out none.
    have hkept := keptFields_eq_of_width hm hname hne hgrid haligned.width
    obtain ⟨-, -, -, hgrid⟩ := (makeGrid_eq_ok hm hname).mp hgrid
    rw [hkept, hcollapse] at hgrid
    exact ⟨hkept, fun e he => exists_shows.mp ⟨grid, hgrid⟩ e (hperm.mem_iff.mpr he)⟩
  · rintro ⟨hkept, hcells⟩
    obtain ⟨grid, hgrid⟩ : ∃ grid : Grid, grid.Shows (fun f => titleOf f.name) (kind.rowModel.shown skip)
        (orderedItems settings items) fun e f => f.shownCell settings e :=
      exists_shows.mpr fun e he => hcells e (hperm.mem_iff.mp he)
    obtain ⟨first, rest, rfl⟩ := List.exists_cons_of_ne_nil hne
    refine ⟨grid, (makeGrid_eq_ok hm hname).mpr ⟨⟨first, rfl, _, cellsOf_eq_ok.mpr
      ⟨htexts first List.mem_cons_self, rfl⟩⟩, hshown, Settings.ensure_of_isChecked hs _, ?_⟩, hgrid.width, ?_⟩
    · rw [hkept, hcollapse]
      exact hgrid
    · exact ⟨_, _, List.Sublist.refl _, hperm, hgrid, fun f hf h => absurd hf h⟩

/-- A variable that is required and has a validation. -/
def regionVariable (description : String) : String × Hcl.Item Hcl.VariableFields :=
  ("region",
    { data := { type := "string", description, validation := [⟨"var.region != \"\"", "No region."⟩] }
      loc := 1
      block := "variable \"region\" \x7b\n  type = string\n\x7d"
      file := Path.ofText "main.tf" })

/-- A variable that has a default and no description. -/
def zoneVariable : String × Hcl.Item Hcl.VariableFields :=
  ("zone",
    { data := { type := "string", description := "", default := some (.str "a") }
      loc := 4
      block := "variable \"zone\" \x7b\n  type = string\n  default = \"a\"\n\x7d"
      file := Path.ofText "main.tf" })

/-- Two variables of which each has a field that is empty for it alone. -/
theorem makeGrid_aligned_variables :
    ∃ grid, makeGrid { replace := [] } variableRow [] [zoneVariable, regionVariable "Where it is."] = .ok grid ∧
      grid.Aligned { replace := [] } (variableRow.shown []) [zoneVariable, regionVariable "Where it is."] := by
  have hs : Settings.IsChecked { replace := [] } := rfl
  have htexts : ∀ e ∈ [zoneVariable, regionVariable "Where it is."], ∀ f ∈ variableRow.fields,
      (f.cell { replace := [] } e.1 e.2).isOk = true := by decide +kernel
  have hfilled : ∀ f ∈ variableRow.shown [], ∃ e ∈ [zoneVariable, regionVariable "Where it is."],
      f.cell { replace := [] } e.1 e.2 ≠ .ok "" := by decide +kernel
  have hcells : ∀ e ∈ [zoneVariable, regionVariable "Where it is."], ∀ f ∈ variableRow.shown [],
      (f.shownCell { replace := [] } e).isOk = true := by decide +kernel
  exact (makeGrid_aligned_iff .inputs hs List.not_mem_nil (List.cons_ne_nil _ _)
    fun e he f hf => exists_of_isOk (htexts e he f hf)).mpr
      ⟨fun _ => hfilled, fun e he f hf => exists_of_isOk (hcells e he f hf)⟩

/-- With an empty description, the default stands below the title "Description" and is collapsed as if it were
one, and the validation stands below the title "Default". -/
theorem makeGrid_not_aligned_variable :
    makeGrid { format := { collapsibleLongDefaults := false }, replace := [] } variableRow [] [regionVariable ""] =
      .ok
        { header := ["Name", "Type", "Description", "Default", "Validation"]
          rows :=
            [["<a href=\"/main.tf#L1\" name=\"region\">region</a>", "<pre>string</pre>", "**required**<br/>",
              "<ul><li>No region.</li></ul>"]] } := by
  decide +kernel

end ModuleDocs
