import Mathlib.Data.List.Perm.Basic
import ModuleDocs.Proofs.Row

/-! # Rows of tables

Rows are what the fields say of the items, one row for an item. Leaving out the empty columns of such rows
leaves out fields (`dropEmptyColumns_map`), and sorting the rows puts the items in an order
(`arrangeRows_eq`). -/
set_option autoImplicit false

namespace ModuleDocs

variable {α : Type}

/-! ## Texts of fields -/

/-- The text of an item in a field that has one. -/
def Field.text (settings : Settings) (f : Field α) (e : String × Hcl.Item α) : String :=
  resultD "" (f.cell settings e.1 e.2)

/-- Every item has a text in every one of the fields. -/
def HasTexts (settings : Settings) (fields : List (Field α)) (items : Hcl.ItemTable α) : Prop :=
  ∀ e ∈ items, ∀ f ∈ fields, ∃ text, f.cell settings e.1 e.2 = .ok text

theorem cellsOf_eq_ok {settings : Settings} {fields : List (Field α)} {e : String × Hcl.Item α}
    {row : List String} :
    cellsOf settings fields e = .ok row ↔
      (∀ f ∈ fields, ∃ text, f.cell settings e.1 e.2 = .ok text) ∧ row = fields.map (·.text settings e) :=
  mapM_eq_ok_iff_map ""

theorem mapM_cellsOf {settings : Settings} {fields : List (Field α)} {items : Hcl.ItemTable α}
    {rows : List (List String)} :
    items.mapM (cellsOf settings fields) = .ok rows ↔
      HasTexts settings fields items ∧ rows = items.map fun e => fields.map (·.text settings e) := by
  rw [mapM_eq_ok_iff_map []]
  constructor
  · rintro ⟨hall, rfl⟩
    refine ⟨fun e he => ?_, List.map_congr_left fun e he => ?_⟩
    · obtain ⟨row, hrow⟩ := hall e he
      exact (cellsOf_eq_ok.mp hrow).1
    · obtain ⟨row, hrow⟩ := hall e he
      rw [hrow, resultD_ok, (cellsOf_eq_ok.mp hrow).2]
  · rintro ⟨hall, rfl⟩
    refine ⟨fun e he => ⟨_, cellsOf_eq_ok.mpr ⟨hall e he, rfl⟩⟩, List.map_congr_left fun e he => ?_⟩
    rw [cellsOf_eq_ok.mpr ⟨hall e he, rfl⟩, resultD_ok]

/-! ## Empty columns -/

theorem map_filter_range {β γ : Type} (l : List β) (keep : β → Bool) (g : β → γ) (q : Nat → Bool) (h : Nat → γ)
    (hq : ∀ i (hi : i < l.length), q i = keep l[i]) (hh : ∀ i (hi : i < l.length), h i = g l[i]) :
    ((List.range l.length).filter q).map h = (l.filter keep).map g := by
  induction l generalizing q h with
  | nil => rfl
  | cons b l ih =>
    have ih' := ih (q ∘ Nat.succ) (h ∘ Nat.succ)
      (fun i hi => hq (i + 1) (Nat.succ_lt_succ hi)) (fun i hi => hh (i + 1) (Nat.succ_lt_succ hi))
    have hq0 : q 0 = keep b := hq 0 (Nat.succ_pos _)
    have hh0 : h 0 = g b := hh 0 (Nat.succ_pos _)
    rw [List.length_cons, List.range_succ_eq_map, List.filter_cons, List.filter_cons, List.filter_map, hq0]
    by_cases hb : keep b
    · rw [if_pos hb, if_pos hb, List.map_cons, List.map_cons, List.map_map, ih', hh0]
    · rw [if_neg hb, if_neg hb, List.map_map, ih']

section Columns
variable {β : Type} (fields : List β) (items : List α) (text : α → β → String)

/-- Whether a field has a text in the row of some item. -/
def isFilled (f : β) : Bool := items.any fun e => text e f ≠ ""

theorem getD_map_text {i : Nat} (hi : i < fields.length) (e : α) :
    (fields.map (text e)).getD i "" = text e fields[i] := by
  simp [List.getD, hi]

theorem filledColumns_map (hitems : items ≠ []) :
    filledColumns (items.map fun e => fields.map (text e)) = (List.range fields.length).filter fun i =>
      (items.map fun e => fields.map (text e)).any fun row => row.getD i "" ≠ "" := by
  obtain ⟨e, items, rfl⟩ := List.exists_cons_of_ne_nil hitems
  rw [filledColumns, List.map_cons, List.headD_cons, List.length_map]

theorem any_map_text {i : Nat} (hi : i < fields.length) :
    ((items.map fun e => fields.map (text e)).any fun row => decide (row.getD i "" ≠ "")) =
      isFilled items text fields[i] := by
  rw [List.any_map, isFilled]
  congr 1
  funext e
  simp only [Function.comp_apply, getD_map_text fields text hi e]

/-- Where every column is empty, no rows are left. -/
theorem dropEmptyColumns_eq_nil (hitems : items ≠ []) (hempty : ∀ f ∈ fields, isFilled items text f = false) :
    dropEmptyColumns (items.map fun e => fields.map (text e)) = [] := by
  have hnone : filledColumns (items.map fun e => fields.map (text e)) = [] := by
    rw [filledColumns_map fields items text hitems, List.filter_eq_nil_iff]
    intro i hi
    rw [any_map_text fields items text (List.mem_range.mp hi), hempty _ (List.getElem_mem _)]
    exact Bool.false_ne_true
  rw [dropEmptyColumns, hnone]
  rfl

/-- Leaving out empty columns leaves out the fields that are empty for every item. -/
theorem dropEmptyColumns_map (hitems : items ≠ []) (hfilled : ∃ f ∈ fields, isFilled items text f = true) :
    dropEmptyColumns (items.map fun e => fields.map (text e)) =
      items.map fun e => (fields.filter (isFilled items text)).map (text e) := by
  have hkept : ∀ e, (filledColumns (items.map fun e => fields.map (text e))).map
      (fun i => (fields.map (text e)).getD i "") = (fields.filter (isFilled items text)).map (text e) := by
    intro e
    rw [filledColumns_map fields items text hitems]
    exact map_filter_range fields _ (text e) _ _ (fun _ => any_map_text fields items text)
      fun _ hi => getD_map_text fields text hi e
  have hne : ¬ (filledColumns (items.map fun e => fields.map (text e))).isEmpty = true := by
    intro hempty
    obtain ⟨f, hf, hfill⟩ := hfilled
    cases items with
    | nil => exact absurd rfl hitems
    | cons e items =>
      have h := hkept e
      rw [List.isEmpty_iff.mp hempty] at h
      have hmem : f ∈ fields.filter (isFilled (e :: items) text) := List.mem_filter.mpr ⟨hf, hfill⟩
      rw [List.map_nil] at h
      rw [List.map_eq_nil_iff.mp h.symm] at hmem
      cases hmem
  rw [dropEmptyColumns, if_neg hne, List.map_map]
  exact List.map_congr_left fun e _ => hkept e

end Columns

theorem isFilled_iff {settings : Settings} {fields : List (Field α)} {items : Hcl.ItemTable α}
    (htexts : HasTexts settings fields items) {f : Field α} (hf : f ∈ fields) :
    isFilled items (fun e f => f.text settings e) f = true ↔ ∃ e ∈ items, f.cell settings e.1 e.2 ≠ .ok "" := by
  rw [isFilled, List.any_eq_true]
  refine exists_congr fun e => and_congr_right fun he => ?_
  obtain ⟨text, htext⟩ := htexts e he f hf
  rw [decide_eq_true_iff, Field.text, htext, resultD_ok, ne_eq, ne_eq, Except.ok.injEq]

/-! ## Arranged rows -/

/-- The link to an item. -/
def linkText (settings : Settings) (e : String × Hcl.Item α) : String := (Row.nameField α).text settings e

/-- The items in the order in which they are shown. -/
def orderedItems (settings : Settings) (items : Hcl.ItemTable α) : Hcl.ItemTable α :=
  if settings.format.sortOrder = .ascending then
    items.mergeSort fun a b => linkText settings a ≤ linkText settings b
  else items

/-- The fields that rows have cells for. -/
def keptFields (settings : Settings) (fields : List (Field α)) (items : Hcl.ItemTable α) : List (Field α) :=
  if settings.format.removeEmptyColumns then fields.filter (isFilled items fun e f => f.text settings e)
  else fields

theorem keptFields_sublist {settings : Settings} {fields : List (Field α)} {items : Hcl.ItemTable α} :
    (keptFields settings fields items).Sublist fields := by
  unfold keptFields
  split
  · exact List.filter_sublist
  · exact List.Sublist.refl _

/-- Rows as a table has them, before long cells are collapsed. -/
def arrangeRows (format : FormatSettings) (rows : List (List String)) : Except Error (List (List String)) :=
  let rows := if format.removeEmptyColumns then dropEmptyColumns rows else rows
  if format.sortOrder = .ascending then sortRows rows else .ok rows

theorem orderedItems_perm (settings : Settings) (items : Hcl.ItemTable α) :
    (orderedItems settings items).Perm items := by
  unfold orderedItems
  split
  · exact List.mergeSort_perm _ _
  · exact List.Perm.refl _

theorem pairwise_orderedItems {settings : Settings} (hsort : settings.format.sortOrder = .ascending)
    (items : Hcl.ItemTable α) :
    (orderedItems settings items).Pairwise fun a b => linkText settings a ≤ linkText settings b := by
  rw [orderedItems, if_pos hsort]
  refine List.Pairwise.imp of_decide_eq_true (List.pairwise_mergeSort (fun a b c hab hbc => ?_) (fun a b => ?_) items)
  · exact decide_eq_true (String.le_trans (of_decide_eq_true hab) (of_decide_eq_true hbc))
  · simpa using String.le_total (linkText settings a) (linkText settings b)

theorem linkText_ne_empty {settings : Settings} {e : String × Hcl.Item α} {text : String}
    (h : (Row.nameField α).cell settings e.1 e.2 = .ok text) : linkText settings e ≠ "" := by
  rw [linkText, Field.text, h, resultD_ok]
  exact link_ne_empty h

section Arranged
variable {settings : Settings} {rest : List (Field α)} {items : Hcl.ItemTable α}

theorem isFilled_nameField (hne : items ≠ []) (htexts : HasTexts settings (Row.nameField α :: rest) items) :
    isFilled items (fun e f => f.text settings e) (Row.nameField α) = true := by
  obtain ⟨e, he⟩ := List.exists_mem_of_ne_nil items hne
  obtain ⟨text, htext⟩ := htexts e he _ List.mem_cons_self
  exact List.any_eq_true.mpr ⟨e, he, decide_eq_true (linkText_ne_empty htext)⟩

theorem keptFields_cons (hne : items ≠ []) (htexts : HasTexts settings (Row.nameField α :: rest) items) :
    ∃ rest', keptFields settings (Row.nameField α :: rest) items = Row.nameField α :: rest' := by
  unfold keptFields
  split
  · rw [List.filter_cons, if_pos (isFilled_nameField hne htexts)]
    exact ⟨_, rfl⟩
  · exact ⟨rest, rfl⟩

theorem arrangeRows_eq (hne : items ≠ []) (htexts : HasTexts settings (Row.nameField α :: rest) items) :
    arrangeRows settings.format (items.map fun e => (Row.nameField α :: rest).map (·.text settings e)) =
      .ok ((orderedItems settings items).map fun e =>
        (keptFields settings (Row.nameField α :: rest) items).map (·.text settings e)) := by
  have hkept : (if settings.format.removeEmptyColumns then
        dropEmptyColumns (items.map fun e => (Row.nameField α :: rest).map (·.text settings e))
      else items.map fun e => (Row.nameField α :: rest).map (·.text settings e)) =
      items.map fun e => (keptFields settings (Row.nameField α :: rest) items).map (·.text settings e) := by
    unfold keptFields
    split
    · exact dropEmptyColumns_map _ _ _ hne ⟨_, List.mem_cons_self, isFilled_nameField hne htexts⟩
    · rfl
  obtain ⟨rest', hrest'⟩ := keptFields_cons hne htexts
  simp only [arrangeRows, hkept, hrest']
  unfold orderedItems
  split
  · have hcells : ¬ (items.map fun e => (Row.nameField α :: rest').map (·.text settings e)).any List.isEmpty := by
      simp
    rw [sortRows, if_neg hcells, ← List.map_mergeSort]
    intro a _ b _
    rfl
  · rfl

end Arranged

/-! ## Tables -/

/-- Collapses the long cells of all columns that are to be collapsed. -/
def Settings.collapseAll (settings : Settings) (grid : Grid) : Except Error Grid :=
  settings.format.collapsed.foldlM (fun grid c => settings.collapse c.1 c.2 grid) grid

theorem makeGrid_cons (settings : Settings) (m : RowModel α) (skip : List String) (first : String × Hcl.Item α)
    (items : Hcl.ItemTable α) :
    makeGrid settings m skip (first :: items) = (do
      let _ ← cellsOf settings m.fields first
      let rows ← (first :: items).mapM (cellsOf settings (m.shown skip))
      settings.ensure .tableFormat
      let rows ← arrangeRows settings.format rows
      settings.collapseAll { header := (m.shown skip).map fun f => titleOf f.name, rows }) := by
  unfold makeGrid arrangeRows
  by_cases h : settings.format.sortOrder = .ascending
  · simp only [h, if_true]
    rfl
  · simp only [h, if_false]
    rfl

theorem makeGrid_eq_ok {settings : Settings} {m : RowModel α} (hm : m.IsLinked) {skip : List String}
    (hname : "name" ∉ skip) {items : Hcl.ItemTable α} {grid : Grid} :
    makeGrid settings m skip items = .ok grid ↔
      (∃ first, items.head? = some first ∧ ∃ cells, cellsOf settings m.fields first = .ok cells) ∧
      HasTexts settings (m.shown skip) items ∧ settings.ensure .tableFormat = .ok () ∧
      settings.collapseAll
        { header := (m.shown skip).map fun f => titleOf f.name
          rows := (orderedItems settings items).map fun e =>
            (keptFields settings (m.shown skip) items).map (·.text settings e) } = .ok grid := by
  obtain ⟨rest, hshown⟩ := hm.shown_eq hname
  cases items with
  | nil => simp [makeGrid]
  | cons first items =>
    simp only [makeGrid_cons, bind_eq_ok, mapM_cellsOf, List.head?_cons, Option.some.injEq, exists_eq_left']
    constructor
    · rintro ⟨cells, hcells, rows, ⟨htexts, rfl⟩, _, hformat, rows', hrows, hgrid⟩
      rw [hshown] at htexts hrows
      have e := (arrangeRows_eq (List.cons_ne_nil first items) htexts).symm.trans hrows
      cases e
      exact ⟨⟨cells, hcells⟩, hshown ▸ htexts, hformat, hshown ▸ hgrid⟩
    · rintro ⟨⟨cells, hcells⟩, htexts, hformat, hgrid⟩
      rw [hshown] at htexts hgrid
      rw [hshown]
      exact ⟨cells, hcells, _, ⟨htexts, rfl⟩, (), hformat, _,
        arrangeRows_eq (List.cons_ne_nil first items) htexts, hgrid⟩

end ModuleDocs
