import ModuleDocs.Proofs.Sheet

/-! # Skipped fields

The table of some items is that of rows which do not have the skipped fields at all, as long as the first item has a
text in each of them: the texts of all its fields are asked for, those of the others only where they are shown
(`makeGrid_eq_ok_without`). So a skipped field has a say in the table exactly through the first item
(`makeGrid_skips_iff`). -/
set_option autoImplicit false

namespace ModuleDocs

open Hcl

variable {α : Type} {settings : Settings} {m : RowModel α} {skip : List String} {items items' : ItemTable α}

/-! ## Rows without skipped fields -/

/-- The fields that are skipped. -/
def RowModel.hidden (m : RowModel α) (skip : List String) : List (Field α) :=
  m.fields.filter fun f => skip.contains f.name

/-- Rows that do not have the skipped fields. -/
def RowModel.without (m : RowModel α) (skip : List String) : RowModel α := { m with fields := m.shown skip }

theorem RowModel.shown_without (m : RowModel α) (skip : List String) : (m.without skip).shown [] = m.shown skip := by
  simp [RowModel.shown, RowModel.without]

theorem exists_cellsOf {fields : List (Field α)} {e : String × Item α} :
    (∃ row, cellsOf settings fields e = .ok row) ↔ ∀ f ∈ fields, ∃ text, f.cell settings e.1 e.2 = .ok text :=
  exists_mapM_eq_ok

/-- An item has a text in every field if it has one in every skipped and in every shown one. -/
theorem exists_cellsOf_fields (settings : Settings) (m : RowModel α) (skip : List String) (e : String × Item α) :
    (∃ row, cellsOf settings m.fields e = .ok row) ↔
      (∀ f ∈ m.hidden skip, ∃ text, f.cell settings e.1 e.2 = .ok text) ∧
        ∃ row, cellsOf settings (m.shown skip) e = .ok row := by
  simp only [exists_cellsOf, RowModel.hidden, RowModel.shown, List.mem_filter]
  constructor
  · exact fun h => ⟨fun f hf => h f hf.1, fun f hf => h f hf.1⟩
  · rintro ⟨hhidden, hshown⟩ f hf
    cases hskip : skip.contains f.name with
    | true => exact hhidden f ⟨hf, hskip⟩
    | false => exact hshown f ⟨hf, by rw [hskip]; rfl⟩

/-- Skipping fields gives the table of rows without them if the first item has a text in each, and none otherwise. -/
theorem makeGrid_eq_ok_without {grid : Grid} :
    makeGrid settings m skip items = .ok grid ↔
      HasTexts settings (m.hidden skip) (items.take 1) ∧ makeGrid settings (m.without skip) [] items = .ok grid := by
  cases items with
  | nil => simp [makeGrid]
  | cons first rest =>
    have hfirst := exists_cellsOf_fields settings m skip first
    have htake : HasTexts settings (m.hidden skip) ((first :: rest).take 1) ↔
        ∀ f ∈ m.hidden skip, ∃ text, f.cell settings first.1 first.2 = .ok text := by
      simp [HasTexts]
    rw [makeGrid_cons, makeGrid_cons, RowModel.shown_without, htake]
    constructor
    · intro h
      obtain ⟨row, hrow, h⟩ := bind_eq_ok.mp h
      obtain ⟨hhidden, row', hrow'⟩ := hfirst.mp ⟨row, hrow⟩
      exact ⟨hhidden, bind_eq_ok.mpr ⟨row', hrow', h⟩⟩
    · rintro ⟨hhidden, h⟩
      obtain ⟨row', hrow', h⟩ := bind_eq_ok.mp h
      obtain ⟨row, hrow⟩ := hfirst.mpr ⟨hhidden, row', hrow'⟩
      exact bind_eq_ok.mpr ⟨row, hrow, h⟩

/-! ## Items that agree where they are shown -/

/-- Items of two tables agree in some fields, one by one: they have the same text in each, or none. -/
def AgreeIn (settings : Settings) (fields : List (Field α)) (items items' : ItemTable α) : Prop :=
  List.Forall₂ (fun e e' => ∀ f ∈ fields, f.cell settings e.1 e.2 = f.cell settings e'.1 e'.2) items items'

theorem AgreeIn.mapM_cellsOf {fields : List (Field α)} (h : AgreeIn settings fields items items') :
    items.mapM (cellsOf settings fields) = items'.mapM (cellsOf settings fields) := by
  induction h with
  | nil => rfl
  | cons hee _ ih => rw [List.mapM_cons, List.mapM_cons, ih, cellsOf, cellsOf, mapM_congr hee]

theorem AgreeIn.makeGrid_without (h : AgreeIn settings (m.shown skip) items items') :
    makeGrid settings (m.without skip) [] items = makeGrid settings (m.without skip) [] items' := by
  cases h with
  | nil => rfl
  | cons hee hrest =>
    have hfirst := mapM_congr hee
    have hrows := AgreeIn.mapM_cellsOf (List.Forall₂.cons hee hrest)
    rw [makeGrid_cons, makeGrid_cons, RowModel.shown_without, hrows, cellsOf, cellsOf]
    exact congrArg (· >>= _) hfirst

/-! ## The say of skipped fields -/

/-- Skipped fields have no say in the table of some items exactly if the first item has a text in each of them, or
rows without these fields have no table either. Items that agree where they are shown have the same table, or both
none, exactly if each of their first items or neither has a text in every skipped field, or rows without these fields
have no table. -/
theorem makeGrid_skips_iff (h : AgreeIn settings (m.shown skip) items items') :
    ((∀ grid, makeGrid settings m skip items = .ok grid ↔ makeGrid settings (m.without skip) [] items = .ok grid) ↔
        HasTexts settings (m.hidden skip) (items.take 1) ∨
          ∀ grid, makeGrid settings (m.without skip) [] items ≠ .ok grid) ∧
      ((∀ grid, makeGrid settings m skip items = .ok grid ↔ makeGrid settings m skip items' = .ok grid) ↔
        (HasTexts settings (m.hidden skip) (items.take 1) ↔ HasTexts settings (m.hidden skip) (items'.take 1)) ∨
          ∀ grid, makeGrid settings (m.without skip) [] items ≠ .ok grid) := by
  have hskip : ∀ grid, makeGrid settings m skip items = .ok grid ↔ _ := fun _ => makeGrid_eq_ok_without
  have hskip' : ∀ grid, makeGrid settings m skip items' = .ok grid ↔ _ := fun _ => makeGrid_eq_ok_without
  rw [← h.makeGrid_without] at hskip'
  simp only [hskip, hskip']
  cases makeGrid settings (m.without skip) [] items with
  | error e => simp
  | ok grid =>
    have hgrid : ¬ ∀ grid', (.ok grid : Except Error Grid) ≠ .ok grid' := fun hnone => hnone grid rfl
    rw [or_iff_left hgrid, or_iff_left hgrid]
    simp only [Except.ok.injEq]
    constructor
    · exact ⟨fun hall => ((hall grid).mpr rfl).1, fun htexts grid' => and_iff_right htexts⟩
    · constructor
      · intro hall
        simpa using hall grid
      · intro htexts grid'
        rw [htexts]

def outputOf (lines : String) : String × Item OutputFields :=
  ("a",
    { data := { value := some "1", description := "What it is." }
      loc := 1
      block := "output \"a\" \x7b\n" ++ lines ++ "\x7d"
      file := Path.ofText "main.tf" })

def outputGrid : Grid where
  header := ["Name", "Description", "Precondition", "Postcondition"]
  rows := [["<a href=\"/main.tf#L1\" name=\"a\">a</a>", "What it is.<br/>"]]

theorem agreeIn_outputOf (lines lines' : String) :
    AgreeIn { replace := [] } (outputRow.shown ["value"]) [outputOf lines] [outputOf lines'] := by
  refine .cons (fun f hf => ?_) .nil
  have hshown : outputRow.shown ["value"] = [outputRow.fields[0], outputRow.fields[1], outputRow.fields[3],
      outputRow.fields[4]] := by rfl
  rw [hshown] at hf
  simp only [List.mem_cons, List.not_mem_nil, or_false] at hf
  rcases hf with rfl | rfl | rfl | rfl
  all_goals rfl

/-- Two outputs that differ in their skipped values. -/
theorem makeGrid_skips_values :
    makeGrid { replace := [] } outputRow ["value"] [outputOf "  value = 1\n"] = .ok outputGrid ∧
      makeGrid { replace := [] } outputRow ["value"] [outputOf "  value = 2\n"] = .ok outputGrid := by
  have hgrid : makeGrid { replace := [] } outputRow ["value"] [outputOf "  value = 1\n"] = .ok outputGrid := by
    decide +kernel
  have htexts : ∀ lines ∈ ["  value = 1\n", "  value = 2\n"], ∀ f ∈ outputRow.hidden ["value"],
      (f.cell { replace := [] } "a" (outputOf lines).2).isOk = true := by decide +kernel
  have hsame := (makeGrid_skips_iff (agreeIn_outputOf "  value = 1\n" "  value = 2\n")).2.mpr (.inl (iff_of_true
    (fun e he f hf => ?_) (fun e he f hf => ?_)))
  · exact ⟨hgrid, (hsame outputGrid).mp hgrid⟩
  · obtain rfl := List.mem_singleton.mp he
    exact exists_of_isOk (htexts _ List.mem_cons_self f hf)
  · obtain rfl := List.mem_singleton.mp he
    exact exists_of_isOk (htexts _ (List.mem_cons_of_mem _ List.mem_cons_self) f hf)

/-- A value on a line that is indented by a tab is not found. The output has no table then, even if values are skipped,
though one whose value is found has. -/
theorem makeGrid_fails_skipped :
    AgreeIn { replace := [] } (outputRow.shown ["value"]) [outputOf "  value = 1\n"] [outputOf "\tvalue = 1\n"] ∧
      makeGrid { replace := [] } outputRow ["value"] [outputOf "  value = 1\n"] = .ok outputGrid ∧
      makeGrid { replace := [] } (outputRow.without ["value"]) [] [outputOf "\tvalue = 1\n"] = .ok outputGrid ∧
      ∀ grid, makeGrid { replace := [] } outputRow ["value"] [outputOf "\tvalue = 1\n"] ≠ .ok grid := by
  refine ⟨agreeIn_outputOf _ _, by decide +kernel, by decide +kernel, fun grid h => ?_⟩
  have herror : (makeGrid { replace := [] } outputRow ["value"] [outputOf "\tvalue = 1\n"]).isOk = false := by
    decide +kernel
  rw [h] at herror
  cases herror

end ModuleDocs
