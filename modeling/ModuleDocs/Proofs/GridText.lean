import ModuleDocs.Proofs.CellText
import ModuleDocs.Proofs.Collapse

/-! # Characters of tables

The rows of a table have the texts of the items in the fields that are kept (`makeGrid_rows`), and collapsing long cells
keeps the characters of these. So a character other than those of tags is in a table only if it is in the text of some
item (`isInTexts_of_isInRows`), and also whenever it is in one, unless it is blank (`isInRows_of_isInTexts`). -/
set_option autoImplicit false

namespace ModuleDocs

open Table Text

/-! ## Characters of rows -/

theorem forall₂_trans {α : Type} {R : α → α → Prop} {as bs cs : List α} (h : List.Forall₂ R as bs)
    (h' : List.Forall₂ R bs cs) (hR : ∀ {a b c}, R a b → R b c → R a c) : List.Forall₂ R as cs := by
  induction h generalizing cs with
  | nil => exact h'
  | cons hab _ ih =>
    cases h' with
    | cons hbc htail => exact .cons (hR hab hbc) (ih htail)

theorem exists_of_forall₂ {α β : Type} {R : α → β → Prop} {as : List α} {bs : List β} (h : List.Forall₂ R as bs)
    {b : β} (hb : b ∈ bs) : ∃ a ∈ as, R a b := by
  induction h with
  | nil => cases hb
  | cons hab _ ih =>
    rcases List.mem_cons.mp hb with rfl | hb
    · exact ⟨_, List.mem_cons_self, hab⟩
    · obtain ⟨a, ha, hR⟩ := ih hb
      exact ⟨a, List.mem_cons_of_mem _ ha, hR⟩

/-- Rows with the same characters in their cells, apart from tags and blanks. -/
def KeepsRow (row row' : List String) : Prop :=
  List.Forall₂ (fun cell cell' => KeepsText cell.toList cell'.toList) row row'

theorem KeepsRow.refl (row : List String) : KeepsRow row row := List.forall₂_same.mpr fun cell _ => .refl cell.toList

theorem KeepsRow.trans {row row' row'' : List String} (h : KeepsRow row row') (h' : KeepsRow row' row'') :
    KeepsRow row row'' :=
  forall₂_trans h h' KeepsText.trans

theorem keepsRow_collapseAt {threshold : Int} {keepFirst : Bool} {i : Nat} {row row' : List String}
    (h : collapseAt threshold keepFirst i row = .ok row') : KeepsRow row row' := by
  obtain ⟨cell, text, hcell, htext, rfl⟩ := collapseAt_eq_ok.mp h
  clear h
  induction row generalizing i with
  | nil => cases hcell
  | cons first row ih =>
    cases i with
    | zero =>
      cases hcell
      exact .cons (keepsText_collapseCell htext) (KeepsRow.refl row)
    | succ i => exact .cons (.refl _) (ih hcell)

theorem keeps_collapse {settings : Settings} {title : String} {keepFirst : Bool} {grid grid' : Grid}
    (h : settings.collapse title keepFirst grid = .ok grid') :
    grid'.header = grid.header ∧ List.Forall₂ KeepsRow grid.rows grid'.rows := by
  have hcolumn := (collapse_eq_ok.mp h).2
  rw [collapseColumn_eq] at hcolumn
  split at hcolumn
  · cases hcolumn
    exact ⟨rfl, List.forall₂_same.mpr fun row _ => .refl row⟩
  · obtain ⟨rows, hrows, rfl⟩ := map_eq_ok.mp hcolumn
    exact ⟨rfl, (mapM_eq_ok.mp hrows).imp fun _ _ => keepsRow_collapseAt⟩

theorem keeps_collapseAll {settings : Settings} {grid grid' : Grid} (h : settings.collapseAll grid = .ok grid') :
    grid'.header = grid.header ∧ List.Forall₂ KeepsRow grid.rows grid'.rows := by
  have hrun : ∀ (columns : List (String × Bool)) (grid : Grid),
      columns.foldlM (fun grid c => settings.collapse c.1 c.2 grid) grid = .ok grid' →
        grid'.header = grid.header ∧ List.Forall₂ KeepsRow grid.rows grid'.rows := by
    intro columns
    induction columns with
    | nil =>
      rintro grid ⟨⟩
      exact ⟨rfl, List.forall₂_same.mpr fun row _ => .refl row⟩
    | cons c columns ih =>
      intro grid h
      rw [List.foldlM_cons] at h
      obtain ⟨next, hnext, h⟩ := bind_eq_ok.mp h
      obtain ⟨hheader, hrows⟩ := keeps_collapse hnext
      obtain ⟨hheader', hrows'⟩ := ih next h
      exact ⟨hheader'.trans hheader, forall₂_trans hrows hrows' KeepsRow.trans⟩
  exact hrun _ _ h

/-! ## Rows of any table -/

section Arranged
variable {α : Type} {settings : Settings} {fields : List (Field α)} {items : Hcl.ItemTable α}

theorem text_eq_empty {f : Field α} (hf : f ∈ fields) (hkept : f ∉ keptFields settings fields items)
    {e : String × Hcl.Item α} (he : e ∈ items) : f.text settings e = "" := by
  unfold keptFields at hkept
  split at hkept
  · have hempty : isFilled items (fun e f => f.text settings e) f ≠ true := fun h =>
      hkept (List.mem_filter.mpr ⟨hf, h⟩)
    by_contra htext
    exact hempty (List.any_eq_true.mpr ⟨e, he, decide_eq_true htext⟩)
  · exact absurd hf hkept

theorem perm_of_sortRows {rows rows' : List (List String)} (h : sortRows rows = .ok rows') : rows'.Perm rows := by
  unfold sortRows at h
  split at h
  · cases h
  · cases h
    exact List.mergeSort_perm _ _

/-- Rows have the texts of the kept fields in them, or there are no rows because no field is kept. -/
theorem arrangeRows_perm (hne : items ≠ []) {rows : List (List String)}
    (h : arrangeRows settings.format (items.map fun e => fields.map (·.text settings e)) = .ok rows) :
    rows = [] ∧ keptFields settings fields items = [] ∨
      rows.Perm (items.map fun e => (keptFields settings fields items).map (·.text settings e)) ∧
        (fields ≠ [] → keptFields settings fields items ≠ []) := by
  -- Sorting moves rows only.
  obtain ⟨cut, hcut, hperm⟩ : ∃ cut, (if settings.format.removeEmptyColumns then
        dropEmptyColumns (items.map fun e => fields.map (·.text settings e))
      else items.map fun e => fields.map (·.text settings e)) = cut ∧ rows.Perm cut := by
    unfold arrangeRows at h
    refine ⟨_, rfl, ?_⟩
    dsimp only at h
    split at h
    · exact perm_of_sortRows h
    · cases h
      exact .refl _
  rw [← hcut] at hperm
  unfold keptFields
  by_cases hremove : settings.format.removeEmptyColumns
  · simp only [hremove, if_true] at hperm ⊢
    by_cases hkept : fields.filter (isFilled items fun e f => f.text settings e) = []
    · left
      have hempty : ∀ f ∈ fields, isFilled items (fun e f => f.text settings e) f = false := fun f hf =>
        Bool.eq_false_iff.mpr (List.filter_eq_nil_iff.mp hkept f hf)
      rw [dropEmptyColumns_eq_nil fields items (fun e f => f.text settings e) hne hempty] at hperm
      exact ⟨hperm.eq_nil, hkept⟩
    · right
      obtain ⟨f, hf⟩ := List.exists_mem_of_ne_nil _ hkept
      rw [dropEmptyColumns_map fields items (fun e f => f.text settings e) hne ⟨f, List.mem_filter.mp hf⟩] at hperm
      exact ⟨hperm, fun _ => hkept⟩
  · simp only [hremove, Bool.false_eq_true, if_false] at hperm ⊢
    exact .inr ⟨hperm, id⟩

end Arranged

def IsInRows (rows : List (List String)) (c : Char) : Prop := ∃ row ∈ rows, ∃ cell ∈ row, c ∈ cell.toList

/-- A character is in the text of an item in one of the fields. -/
def IsInTexts {α : Type} (settings : Settings) (fields : List (Field α)) (items : Hcl.ItemTable α) (c : Char) : Prop :=
  ∃ e ∈ items, ∃ f ∈ fields, c ∈ (f.text settings e).toList

instance {α : Type} (settings : Settings) (fields : List (Field α)) (items : Hcl.ItemTable α) (c : Char) :
    Decidable (IsInTexts settings fields items c) :=
  inferInstanceAs (Decidable (∃ e ∈ items, ∃ f ∈ fields, c ∈ (f.text settings e).toList))

section Kept
variable {c : Char} (hc : isMarkup c = false) {rows rows' : List (List String)} (h : List.Forall₂ KeepsRow rows rows')
include hc h

theorem isInRows_of_keeps (hmem : IsInRows rows' c) : IsInRows rows c := by
  obtain ⟨row', hrow', cell', hcell', hchar⟩ := hmem
  obtain ⟨row, hrow, hkeeps⟩ := exists_of_forall₂ h hrow'
  obtain ⟨cell, hcell, hkeeps⟩ := exists_of_forall₂ hkeeps hcell'
  exact ⟨row, hrow, cell, hcell, (hkeeps c hc).1 hchar⟩

theorem isInRows_keeps (hblank : isBlank c = false) (hmem : IsInRows rows c) : IsInRows rows' c := by
  obtain ⟨row, hrow, cell, hcell, hchar⟩ := hmem
  obtain ⟨row', hrow', hkeeps⟩ := exists_of_forall₂ h.flip hrow
  obtain ⟨cell', hcell', hkeeps⟩ := exists_of_forall₂ hkeeps.flip hcell
  exact ⟨row', hrow', cell', hcell', (hkeeps c hc).2 hblank hchar⟩

end Kept

section Made
variable {α : Type} {settings : Settings} {m : RowModel α} {skip : List String} {items : Hcl.ItemTable α} {grid : Grid}

theorem makeGrid_rows (h : makeGrid settings m skip items = .ok grid) :
    grid.header = (m.shown skip).map (fun f => titleOf f.name) ∧
      (grid.rows = [] ∧ keptFields settings (m.shown skip) items = [] ∨
        ∃ rows, rows.Perm (items.map fun e => (keptFields settings (m.shown skip) items).map (·.text settings e)) ∧
          List.Forall₂ KeepsRow rows grid.rows ∧
            (m.shown skip ≠ [] → keptFields settings (m.shown skip) items ≠ [])) := by
  cases items with
  | nil => cases h
  | cons first items =>
    simp only [makeGrid_cons, bind_eq_ok, mapM_cellsOf] at h
    obtain ⟨-, -, _, ⟨-, rfl⟩, -, -, rows, hrows, hgrid⟩ := h
    obtain ⟨hheader, hkeeps⟩ := keeps_collapseAll hgrid
    refine ⟨hheader, ?_⟩
    rcases arrangeRows_perm (List.cons_ne_nil first items) hrows with ⟨rfl, hkept⟩ | ⟨hperm, hkept⟩
    · exact .inl ⟨List.forall₂_nil_left_iff.mp hkeeps, hkept⟩
    · exact .inr ⟨rows, hperm, hkeeps, hkept⟩

theorem length_of_mem_rows (h : makeGrid settings m skip items = .ok grid) {row : List String}
    (hrow : row ∈ grid.rows) : row.length = (keptFields settings (m.shown skip) items).length := by
  obtain ⟨-, ⟨hnil, -⟩ | ⟨rows, hperm, hkeeps, -⟩⟩ := makeGrid_rows h
  · rw [hnil] at hrow
    cases hrow
  · obtain ⟨first, hfirst, hlength⟩ := exists_of_forall₂ hkeeps hrow
    obtain ⟨e, -, rfl⟩ := List.mem_map.mp (hperm.mem_iff.mp hfirst)
    rw [← hlength.length_eq, List.length_map]

theorem length_rows (h : makeGrid settings m skip items = .ok grid)
    (hkept : keptFields settings (m.shown skip) items ≠ []) : grid.rows.length = items.length := by
  obtain ⟨-, ⟨-, hnil⟩ | ⟨rows, hperm, hkeeps, -⟩⟩ := makeGrid_rows h
  · exact absurd hnil hkept
  · rw [← hkeeps.length_eq, hperm.length_eq, List.length_map]

theorem isInTexts_of_isInRows {c : Char} (hc : isMarkup c = false) (h : makeGrid settings m skip items = .ok grid)
    (hmem : IsInRows grid.rows c) : IsInTexts settings (m.shown skip) items c := by
  obtain ⟨-, ⟨hnil, -⟩ | ⟨rows, hperm, hkeeps, -⟩⟩ := makeGrid_rows h
  · obtain ⟨row, hrow, -⟩ := hmem
    rw [hnil] at hrow
    cases hrow
  · obtain ⟨row, hrow, cell, hcell, hchar⟩ := isInRows_of_keeps hc hkeeps hmem
    obtain ⟨e, he, rfl⟩ := List.mem_map.mp (hperm.mem_iff.mp hrow)
    obtain ⟨f, hf, rfl⟩ := List.mem_map.mp hcell
    exact ⟨e, he, f, keptFields_sublist.subset hf, hchar⟩

theorem isInRows_of_isInTexts {c : Char} (hc : isMarkup c = false) (hblank : isBlank c = false)
    (h : makeGrid settings m skip items = .ok grid) (hmem : IsInTexts settings (m.shown skip) items c) :
    IsInRows grid.rows c := by
  obtain ⟨e, he, f, hf, hchar⟩ := hmem
  have hfield : f ∈ keptFields settings (m.shown skip) items := by
    by_contra hkept
    rw [text_eq_empty hf hkept he] at hchar
    exact List.not_mem_nil hchar
  obtain ⟨-, ⟨-, hnil⟩ | ⟨rows, hperm, hkeeps, -⟩⟩ := makeGrid_rows h
  · rw [hnil] at hfield
    cases hfield
  · refine isInRows_keeps hc hkeeps hblank ⟨_, hperm.mem_iff.mpr (List.mem_map_of_mem he), _, ?_, hchar⟩
    exact List.mem_map_of_mem hfield

end Made

end ModuleDocs
