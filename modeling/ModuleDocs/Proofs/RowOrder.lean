import ModuleDocs.Proofs.Alignment

/-! # Rows and their order

A table has one row for each item, with a cell for each field that is not empty for all of them, and the rows are in the
order of the links that they start with (`makeGrid_conserves`). A link names the file and the line before the item, so
this is the order of the names only where the links are in it too (`makeGrid_inNameOrder_iff`). -/
set_option autoImplicit false

namespace ModuleDocs

open Hcl

variable {α : Type} {settings : Settings}

/-! ## All rows -/

/-- No long cells are to be collapsed. -/
structure FormatSettings.KeepsCells (f : FormatSettings) : Prop where
  values : f.collapsibleLongValues = false
  types : f.collapsibleLongTypes = false
  defaults : f.collapsibleLongDefaults = false
  descriptions : f.collapsibleLongDescription = false

theorem FormatSettings.KeepsCells.collapseAll (h : settings.format.KeepsCells) (grid : Grid) :
    settings.collapseAll grid = .ok grid := by
  have hnone : settings.format.collapsed = [] := by
    simp [FormatSettings.collapsed, h.values, h.types, h.defaults, h.descriptions]
  rw [Settings.collapseAll, hnone]
  rfl

theorem mem_keptFields {fields : List (Field α)} {items : ItemTable α} (htexts : HasTexts settings fields items)
    {f : Field α} (hf : f ∈ fields) :
    f ∈ keptFields settings fields items ↔
      (settings.format.removeEmptyColumns = true → ∃ e ∈ items, f.cell settings e.1 e.2 ≠ .ok "") := by
  unfold keptFields
  split
  next hremove => simp [hf, hremove, isFilled_iff htexts hf]
  next hremove => simp [hf, hremove]

theorem mapM_link {rest : List (Field α)} {items : ItemTable α}
    (htexts : HasTexts settings (Row.nameField α :: rest) items) :
    items.mapM (fun e => Row.link settings e.1 e.2.file e.2.loc) = .ok (items.map (linkText settings)) :=
  (mapM_eq_ok_iff_map "").mpr ⟨fun e he => htexts e he _ List.mem_cons_self, rfl⟩

/-- A table whose cells are not collapsed has one row for each item, with what the item has in the fields that are not
empty for all items, or in all fields. Rows start with the links to their items, and are in the order of these. -/
theorem makeGrid_conserves (kind : ItemKind) (hcells : settings.format.KeepsCells) {skip : List String}
    (hname : "name" ∉ skip) {items : ItemTable kind.Fields} {grid : Grid}
    (h : makeGrid settings kind.rowModel skip items = .ok grid) :
    ∃ (order : ItemTable kind.Fields) (fields : List (Field kind.Fields)) (links : List String),
      order.Perm items ∧ order.mapM (cellsOf settings fields) = .ok grid.rows ∧
      fields.Sublist (kind.rowModel.shown skip) ∧
      (∀ f ∈ kind.rowModel.shown skip, f ∈ fields ↔
        (settings.format.removeEmptyColumns = true → ∃ e ∈ items, f.cell settings e.1 e.2 ≠ .ok "")) ∧
      (∀ row ∈ grid.rows, row.length = fields.length) ∧
      order.mapM (fun e => Row.link settings e.1 e.2.file e.2.loc) = .ok links ∧
      grid.rows.map List.head? = links.map some ∧
      (settings.format.sortOrder = .ascending → links.Pairwise (· ≤ ·)) := by
  obtain ⟨⟨first, hfirst, -⟩, htexts, -, hgrid⟩ := (makeGrid_eq_ok kind.isLinked hname).mp h
  rw [hcells.collapseAll, Except.ok.injEq] at hgrid
  have hne : items ≠ [] := by
    rintro rfl
    cases hfirst
  have hperm := orderedItems_perm settings items
  have hordered : HasTexts settings (kind.rowModel.shown skip) (orderedItems settings items) :=
    fun e he => htexts e (hperm.mem_iff.mp he)
  have hrows : (orderedItems settings items).mapM
      (cellsOf settings (keptFields settings (kind.rowModel.shown skip) items)) = .ok grid.rows := by
    rw [mapM_cellsOf, ← hgrid]
    exact ⟨fun e he f hf => hordered e he f (keptFields_sublist.subset hf), rfl⟩
  obtain ⟨rest, hshown⟩ := kind.isLinked.shown_eq hname
  obtain ⟨rest', hkept⟩ := keptFields_cons hne (hshown ▸ htexts)
  refine ⟨orderedItems settings items, keptFields settings (kind.rowModel.shown skip) items, _, hperm, hrows,
    keptFields_sublist, fun f hf => mem_keptFields htexts hf, ?_, mapM_link (hshown ▸ hordered), ?_, ?_⟩
  · intro row hrow
    obtain ⟨e, -, he⟩ := exists_of_mem_mapM hrows hrow
    exact length_of_mapM he
  · rw [← hgrid, hshown, hkept]
    simp [linkText, Function.comp_def]
  · intro hsort
    exact List.pairwise_map.mpr (pairwise_orderedItems hsort items)

theorem makeGrid_of_pairwise (kind : ItemKind) (hs : settings.IsChecked) {skip : List String} (hname : "name" ∉ skip)
    {items : ItemTable kind.Fields} (hne : items ≠ [])
    (hcells : ∀ e ∈ items, ∀ f ∈ kind.rowModel.fields, (f.cell settings e.1 e.2).isOk = true)
    (hlinks : items.Pairwise fun a b => linkText settings a ≤ linkText settings b) {grid : Grid}
    (hgrid : settings.collapseAll
      { header := (kind.rowModel.shown skip).map fun f => titleOf f.name
        rows := items.map fun e =>
          (keptFields settings (kind.rowModel.shown skip) items).map (·.text settings e) } = .ok grid) :
    makeGrid settings kind.rowModel skip items = .ok grid := by
  have hordered : orderedItems settings items = items := by
    unfold orderedItems
    split
    · exact List.mergeSort_of_pairwise (hlinks.imp decide_eq_true)
    · rfl
  have htexts : HasTexts settings kind.rowModel.fields items := fun e he f hf => exists_of_isOk (hcells e he f hf)
  obtain ⟨first, rest, rfl⟩ := List.exists_cons_of_ne_nil hne
  have hfirst := cellsOf_eq_ok.mpr ⟨htexts first List.mem_cons_self, rfl⟩
  have hshown : HasTexts settings (kind.rowModel.shown skip) (first :: rest) :=
    fun e he f hf => htexts e he f (List.mem_filter.mp hf).1
  refine (makeGrid_eq_ok kind.isLinked hname).mpr
    ⟨⟨first, rfl, _, hfirst⟩, hshown, Settings.ensure_of_isChecked hs _, ?_⟩
  rw [hordered]
  exact hgrid

/-- Settings by which cells are shown as they are. -/
def plainSettings : Settings where
  format :=
    { collapsibleLongValues := false
      collapsibleLongTypes := false
      collapsibleLongDefaults := false
      collapsibleLongDescription := false }
  replace := []

/-- The table of two variables that have no description. -/
def variableGrid : Grid where
  header := ["Name", "Type", "Description", "Default", "Validation"]
  rows :=
    [["<a href=\"/main.tf#L1\" name=\"region\">region</a>", "<pre>string</pre>", "**required**",
        "<ul><li>No region.</li></ul>"],
      ["<a href=\"/main.tf#L4\" name=\"zone\">zone</a>", "<pre>string</pre>", "<pre>\"a\"</pre>", ""]]

/-- Of two variables without a description only one has a validation. -/
theorem makeGrid_conserves_variables :
    makeGrid plainSettings variableRow [] [regionVariable "", zoneVariable] = .ok variableGrid ∧
      ∃ order fields, List.Perm order [regionVariable "", zoneVariable] ∧
        order.mapM (cellsOf plainSettings fields) = .ok variableGrid.rows ∧
        ∀ row ∈ variableGrid.rows, row.length = fields.length := by
  have hgrid : makeGrid plainSettings variableRow [] [regionVariable "", zoneVariable] = .ok variableGrid :=
    makeGrid_of_pairwise .inputs (by rfl) List.not_mem_nil (List.cons_ne_nil _ _) (by decide +kernel)
      (by decide +kernel) (by decide +kernel)
  obtain ⟨order, fields, -, hperm, hrows, -, -, hwidth, -⟩ :=
    makeGrid_conserves .inputs ⟨rfl, rfl, rfl, rfl⟩ List.not_mem_nil hgrid
  exact ⟨hgrid, order, fields, hperm, hrows, hwidth⟩

/-! ## The order of names -/

section Orders
variable {β : Type} {name key : β → String} {items sorted : List β}

/-- Whether an element comes before another by its name, and of two with the same name by its key. -/
def nameBefore (name key : β → String) (a b : β) : Bool := name a < name b ∨ name a = name b ∧ key a ≤ key b

theorem nameBefore_iff {a b : β} :
    nameBefore name key a b = true ↔ name a < name b ∨ name a = name b ∧ key a ≤ key b := decide_eq_true_iff

theorem pairwise_nameBefore (name key : β → String) (items : List β) :
    (items.mergeSort (nameBefore name key)).Pairwise fun a b => nameBefore name key a b = true := by
  refine List.pairwise_mergeSort (fun a b c hab hbc => ?_) (fun a b => ?_) items
  · rw [nameBefore_iff] at *
    grind
  · rw [Bool.or_eq_true, nameBefore_iff, nameBefore_iff]
    grind

/-- Elements in the order of a key can be taken for elements in the order of their names exactly if the key goes with
the name. -/
theorem exists_named_iff (hperm : sorted.Perm items) (hsorted : sorted.Pairwise fun a b => key a ≤ key b) :
    (∃ order : List β, order.Perm items ∧ sorted.map key = order.map key ∧
        order.Pairwise fun a b => name a ≤ name b) ↔
      ∀ a ∈ items, ∀ b ∈ items, name a < name b → key a ≤ key b := by
  constructor
  · rintro ⟨order, horder, hkeys, hnames⟩ a ha b hb hlt
    have hkeyed : order.Pairwise fun a b => key a ≤ key b := by
      rw [← List.pairwise_map, ← hkeys, List.pairwise_map]
      exact hsorted
    -- Of two elements in their order the second does not have the lesser name.
    have hflip : order.Pairwise (flip fun a b => name a < name b → key a ≤ key b) :=
      hnames.imp fun hle hlt => absurd hle (String.not_le.mpr hlt)
    have hforth : order.Pairwise fun a b => name a < name b → key a ≤ key b := by
      refine hkeyed.imp ?_
      intro a b hle _
      exact hle
    have hself : ∀ a ∈ order, name a < name a → key a ≤ key a := fun a _ hlt => absurd hlt (String.lt_irrefl _)
    exact hforth.forall_of_forall_of_flip hself hflip (horder.mem_iff.mpr ha) (horder.mem_iff.mpr hb) hlt
  · intro hkey
    have horder : (items.mergeSort (nameBefore name key)).Perm items := List.mergeSort_perm _ _
    have hbefore := pairwise_nameBefore name key items
    refine ⟨_, horder, ?_, hbefore.imp fun h => ?_⟩
    · refine List.Perm.eq_of_pairwise (fun _ _ _ _ => String.le_antisymm) (List.pairwise_map.mpr hsorted)
        (List.pairwise_map.mpr (hbefore.imp_of_mem fun {a b} ha hb h => ?_)) ((hperm.trans horder.symm).map key)
      obtain hlt | ⟨-, hle⟩ := nameBefore_iff.mp h
      · exact hkey a (horder.mem_iff.mp ha) b (horder.mem_iff.mp hb) hlt
      · exact hle
    · obtain hlt | ⟨heq, -⟩ := nameBefore_iff.mp h
      · exact Std.le_of_lt hlt
      · exact heq ▸ String.le_refl _

end Orders

/-- The rows of a table are those of the items in the order of their names, by the links that they start with. -/
def Grid.InNameOrder (settings : Settings) (items : ItemTable α) (grid : Grid) : Prop :=
  ∃ order : ItemTable α, order.Perm items ∧
    grid.rows.map List.head? = order.map (fun e => some (linkText settings e)) ∧ order.Pairwise fun a b => a.1 ≤ b.1

theorem Grid.inNameOrder_iff {items sorted : ItemTable α} {grid : Grid}
    (hheads : grid.rows.map List.head? = sorted.map fun e => some (linkText settings e)) (hperm : sorted.Perm items)
    (hsorted : sorted.Pairwise fun a b => linkText settings a ≤ linkText settings b) :
    grid.InNameOrder settings items ↔
      ∀ a ∈ items, ∀ b ∈ items, a.1 < b.1 → linkText settings a ≤ linkText settings b := by
  have hsome : ∀ l : ItemTable α,
      l.map (fun e => some (linkText settings e)) = (l.map (linkText settings)).map some := by simp
  rw [← exists_named_iff hperm hsorted, Grid.InNameOrder, hheads]
  refine exists_congr fun order => and_congr_right fun _ => and_congr_left fun _ => ?_
  rw [hsome, hsome, List.map_inj_right fun _ _ => Option.some.inj]

/-- The rows of a table are in the order of the names of their items exactly if of two items the one with the lesser
name has no greater link. -/
theorem makeGrid_inNameOrder_iff (kind : ItemKind) (hsort : settings.format.sortOrder = .ascending)
    {skip : List String} (hname : "name" ∉ skip) {items : ItemTable kind.Fields} {grid : Grid}
    (h : makeGrid settings kind.rowModel skip items = .ok grid) :
    grid.InNameOrder settings items ↔
      ∀ a ∈ items, ∀ b ∈ items, a.1 < b.1 → linkText settings a ≤ linkText settings b := by
  obtain ⟨-, hshape⟩ := makeGrid_shape kind.isLinked hname h
  have hheads := congrArg (List.map Prod.snd) hshape
  rw [List.map_map, List.map_map] at hheads
  exact Grid.inNameOrder_iff hheads (orderedItems_perm settings items) (pairwise_orderedItems hsort items)

def localOn (name : String) (line : Int) : String × Item LocalFields := (name, ⟨⟨.int 1⟩, line, "", ⟨.here, ["m.tf"]⟩⟩)

/-- The table of two locals, the first of which stands before the other. -/
def localGrid (first second : String) : Grid where
  header := ["Name"]
  rows :=
    [["<a href=\"/m.tf#L1\" name=\"" ++ first ++ "\">" ++ first ++ "</a>"],
      ["<a href=\"/m.tf#L3\" name=\"" ++ second ++ "\">" ++ second ++ "</a>"]]

/-- Two locals whose lines are in the order of their names. -/
theorem makeGrid_inNameOrder_locals :
    makeGrid {} localRow [] [localOn "a" 1, localOn "b" 3] = .ok (localGrid "a" "b") ∧
      (localGrid "a" "b").InNameOrder {} [localOn "a" 1, localOn "b" 3] := by
  have h : makeGrid {} localRow [] [localOn "a" 1, localOn "b" 3] = .ok (localGrid "a" "b") :=
    makeGrid_of_pairwise .locals (by rfl) List.not_mem_nil (List.cons_ne_nil _ _) (by decide +kernel)
      (by decide +kernel) (by decide +kernel)
  exact ⟨h, (makeGrid_inNameOrder_iff .locals rfl List.not_mem_nil h).mpr (by decide +kernel)⟩

/-- Two locals whose lines are not in the order of their names. -/
theorem makeGrid_not_inNameOrder :
    makeGrid {} localRow [] [localOn "b" 1, localOn "a" 3] = .ok (localGrid "b" "a") ∧
      ¬ (localGrid "b" "a").InNameOrder {} [localOn "b" 1, localOn "a" 3] := by
  have hlinks : [localOn "b" 1, localOn "a" 3].Pairwise fun a b => linkText {} a ≤ linkText {} b := by decide +kernel
  refine ⟨makeGrid_of_pairwise .locals (by rfl) List.not_mem_nil (List.cons_ne_nil _ _) (by decide +kernel) hlinks
    (by decide +kernel), ?_⟩
  rw [Grid.inNameOrder_iff (by decide +kernel) (List.Perm.refl _) hlinks]
  decide +kernel

end ModuleDocs
