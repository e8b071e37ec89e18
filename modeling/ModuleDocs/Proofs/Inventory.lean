import Mathlib.Data.List.Nodup
import ModuleDocs.Proofs.Row

/-! # Inventories

Where no entry may be replaced, adding items to a table appends them, and the names in it stay different
(`addItems_eq_ok`). So the tables of an inventory of some files are those of each file one after the other
(`loadFiles_eq_ok`). -/
set_option autoImplicit false

namespace ModuleDocs.Hcl

/-! ## Tables -/

section Tables
variable {α : Type} {kind : String}

theorem lookup_isSome_iff {name : String} {table : ItemTable α} :
    (table.lookup name).isSome = true ↔ name ∈ table.map Prod.fst := by
  rw [List.lookup_isSome_iff, List.mem_map]
  exact exists_congr fun e => and_congr_right fun _ => beq_iff_eq.trans eq_comm

theorem setEntry_of_notMem {name : String} {item : Item α} {table : ItemTable α} (h : name ∉ table.map Prod.fst) :
    Value.setEntry name item table = table ++ [(name, item)] := by
  induction table with
  | nil => rfl
  | cons e table ih =>
    rw [List.map_cons, List.mem_cons, not_or] at h
    rw [Value.setEntry, if_neg (Ne.symm h.1), ih h.2, List.cons_append]

theorem addItem_eq_ok {table table' : ItemTable α} {name : String} {item : Item α} :
    addItem kind false table name item = .ok table' ↔
      name ∉ table.map Prod.fst ∧ table' = table ++ [(name, item)] := by
  unfold addItem
  by_cases h : name ∈ table.map Prod.fst
  · simp [lookup_isSome_iff.mpr h, h]
  · rw [Bool.eq_false_iff.mpr (mt lookup_isSome_iff.mp h), Bool.false_and, if_neg Bool.false_ne_true,
      setEntry_of_notMem h, Except.ok.injEq, eq_comm]
    exact (and_iff_right h).symm

/-- Items are added to a table of different names as long as all names stay different. -/
theorem addItems_eq_ok {table new table' : ItemTable α} (hnodup : (table.map Prod.fst).Nodup) :
    addItems kind false table new = .ok table' ↔
      ((table ++ new).map Prod.fst).Nodup ∧ table' = table ++ new := by
  unfold addItems
  induction new generalizing table with
  | nil =>
    rw [List.foldlM_nil, pure_eq_ok, List.append_nil, and_iff_right hnodup, eq_comm]
  | cons e new ih =>
    rw [List.foldlM_cons, bind_eq_ok, ← List.singleton_append, ← List.append_assoc]
    have hstep : ((table ++ [e]).map Prod.fst).Nodup ↔ e.1 ∉ table.map Prod.fst := by
      rw [List.map_append, List.map_singleton, List.nodup_append_comm, List.singleton_append, List.nodup_cons,
        and_iff_left hnodup]
    constructor
    · rintro ⟨next, hnext, h⟩
      obtain ⟨hname, rfl⟩ := addItem_eq_ok.mp hnext
      exact (ih (hstep.mpr hname)).mp h
    · intro h
      have hnext : ((table ++ [e]).map Prod.fst).Nodup := by
        rw [List.map_append] at h
        exact h.1.of_append_left
      exact ⟨table ++ [e], addItem_eq_ok.mpr ⟨hstep.mp hnext, rfl⟩, (ih hnext).mpr h⟩

/-- An entry with its item, as a table has it. -/
def Entry.named (file : Path) (text : String) (e : Entry α) : Except Error (String × Item α) :=
  (e.item file text).map fun item => (e.name, item)

def addEntry (kind : String) (file : Path) (text : String) (table : ItemTable α) (e : Entry α) :
    Except Error (ItemTable α) := do
  if (table.lookup e.name).isSome && !false then .error (.alreadyDefined kind e.name)
  addItem kind false table e.name (← e.item file text)

theorem addEntry_eq_ok {file : Path} {text : String} {table table' : ItemTable α} {e : Entry α} :
    addEntry kind file text table e = .ok table' ↔
      ∃ entry, e.named file text = .ok entry ∧ addItem kind false table entry.1 entry.2 = .ok table' := by
  simp only [addEntry, Entry.named, map_eq_ok, addItem_eq_ok]
  by_cases h : e.name ∈ table.map Prod.fst
  · simp [lookup_isSome_iff.mpr h, h]
  · rw [Bool.eq_false_iff.mpr (mt lookup_isSome_iff.mp h)]
    simp [addItem_eq_ok]

/-- The table of some entries has the item of each, under different names. -/
theorem tableOf_eq_ok {file : Path} {text : String} {entries : List (Entry α)} {table : ItemTable α} :
    tableOf kind false file text entries = .ok table ↔
      entries.mapM (Entry.named file text) = .ok table ∧ (table.map Prod.fst).Nodup := by
  have hrun : ∀ start, entries.foldlM (addEntry kind file text) start = .ok table ↔
      ∃ items, entries.mapM (Entry.named file text) = .ok items ∧ addItems kind false start items = .ok table := by
    induction entries with
    | nil => simp [addItems]
    | cons e entries ih =>
      intro start
      simp only [List.foldlM_cons, List.mapM_cons, bind_eq_ok, pure_eq_ok, addEntry_eq_ok, ih, addItems]
      constructor
      · rintro ⟨next, ⟨entry, hentry, hnext⟩, items, hitems, h⟩
        exact ⟨entry :: items, ⟨entry, hentry, items, hitems, rfl⟩, bind_eq_ok.mpr ⟨next, hnext, h⟩⟩
      · rintro ⟨_, ⟨entry, hentry, items, hitems, rfl⟩, h⟩
        obtain ⟨next, hnext, h⟩ := bind_eq_ok.mp h
        exact ⟨next, ⟨entry, hentry, hnext⟩, items, hitems, h⟩
  have hempty : (([] : ItemTable α).map Prod.fst).Nodup := List.nodup_nil
  refine (hrun []).trans ⟨?_, ?_⟩
  · rintro ⟨items, hitems, h⟩
    obtain ⟨hnodup, rfl⟩ := (addItems_eq_ok hempty).mp h
    exact ⟨hitems, hnodup⟩
  · rintro ⟨hitems, hnodup⟩
    exact ⟨table, hitems, (addItems_eq_ok hempty).mpr ⟨hnodup, rfl⟩⟩

end Tables

/-! ## Parts -/

/-- The tables of an inventory. -/
inductive Part where
  | resources
  | locals
  | inputs
  | outputs
  | validationOutputs
  | validationResources
deriving DecidableEq

abbrev Part.kind : Part → ItemKind
  | .resources | .validationResources => .resources
  | .locals => .locals
  | .inputs => .inputs
  | .outputs | .validationOutputs => .outputs

def Inventory.table (inv : Inventory) : (p : Part) → ItemTable p.kind.Fields
  | .resources => inv.resources
  | .locals => inv.locals
  | .inputs => inv.inputs
  | .outputs => inv.outputs
  | .validationOutputs => inv.validationOutputs
  | .validationResources => inv.validationResources

/-- In each of its tables, an inventory has no two items of one name. -/
def Inventory.Distinct (inv : Inventory) : Prop := ∀ p, ((inv.table p).map Prod.fst).Nodup

def Inventory.concat (invs : List Inventory) : Inventory where
  resources := invs.flatMap (·.resources)
  locals := invs.flatMap (·.locals)
  inputs := invs.flatMap (·.inputs)
  outputs := invs.flatMap (·.outputs)
  validationOutputs := invs.flatMap (·.validationOutputs)
  validationResources := invs.flatMap (·.validationResources)

theorem Inventory.table_concat (invs : List Inventory) (p : Part) :
    (Inventory.concat invs).table p = invs.flatMap (·.table p) := by
  cases p <;> rfl

theorem Inventory.ext_table {a b : Inventory} (h : ∀ p, a.table p = b.table p) : a = b := by
  cases a
  cases b
  cases h .resources
  cases h .locals
  cases h .inputs
  cases h .outputs
  cases h .validationOutputs
  cases h .validationResources
  rfl

/-! ## Inventories of files -/

section Modules
variable {settings : Settings}

/-- If no resource may be replaced, adding an inventory appends each of its tables. -/
theorem Inventory.add_eq_ok (hid : settings.format.addResourceIdentifier = true) {all new inv : Inventory}
    (hall : all.Distinct) (h : Inventory.add settings all new = .ok inv) (p : Part) :
    ((inv.table p).map Prod.fst).Nodup ∧ inv.table p = all.table p ++ new.table p := by
  simp only [Inventory.add, hid, Bool.not_true, bind_eq_ok, pure_eq_ok] at h
  obtain ⟨locals, hlocals, inputs, hinputs, outputs, houtputs, validationOutputs, hvalidationOutputs,
    validationResources, hvalidationResources, resources, hresources, rfl⟩ := h
  have happend : ∀ {α : Type} {kind : String} {table new table' : ItemTable α}, (table.map Prod.fst).Nodup →
      addItems kind false table new = .ok table' → (table'.map Prod.fst).Nodup ∧ table' = table ++ new := by
    intro α kind table new table' htable h
    obtain ⟨hnodup, rfl⟩ := (addItems_eq_ok htable).mp h
    exact ⟨hnodup, rfl⟩
  cases p with
  | resources => exact happend (hall .resources) hresources
  | locals => exact happend (hall .locals) hlocals
  | inputs => exact happend (hall .inputs) hinputs
  | outputs => exact happend (hall .outputs) houtputs
  | validationOutputs => exact happend (hall .validationOutputs) hvalidationOutputs
  | validationResources => exact happend (hall .validationResources) hvalidationResources

theorem foldlM_add_eq_ok (hid : settings.format.addResourceIdentifier = true) {invs : List Inventory}
    {all inv : Inventory} (hall : all.Distinct) (h : invs.foldlM (Inventory.add settings) all = .ok inv) :
    inv.Distinct ∧ ∀ p, inv.table p = all.table p ++ invs.flatMap (·.table p) := by
  induction invs generalizing all with
  | nil =>
    cases h
    exact ⟨hall, fun p => (List.append_nil _).symm⟩
  | cons new invs ih =>
    rw [List.foldlM_cons] at h
    obtain ⟨next, hnext, h⟩ := bind_eq_ok.mp h
    have hstep := Inventory.add_eq_ok hid hall hnext
    obtain ⟨hdistinct, htables⟩ := ih (fun p => (hstep p).1) h
    refine ⟨hdistinct, fun p => ?_⟩
    rw [htables, (hstep p).2, List.flatMap_cons, List.append_assoc]

theorem loadFiles_eq_ok (hid : settings.format.addResourceIdentifier = true) {ws : Workspace} {parse : Parser}
    {files : List Path} {inv : Inventory} (h : loadFiles ws parse settings files = .ok inv) :
    inv.Distinct ∧ ∃ invs, files.mapM (loadFile ws parse settings) = .ok invs ∧ inv = Inventory.concat invs := by
  obtain ⟨invs, hinvs, h⟩ := bind_eq_ok.mp h
  have hempty : Inventory.Distinct {} := by
    intro p
    cases p <;> exact List.nodup_nil
  obtain ⟨hdistinct, htables⟩ := foldlM_add_eq_ok hid hempty h
  refine ⟨hdistinct, invs, hinvs, Inventory.ext_table fun p => ?_⟩
  rw [htables, Inventory.table_concat]
  cases p <;> rfl

theorem loadFiles_of_loadModule {ws : Workspace} {parse : Parser} {inv : Inventory}
    (h : loadModule ws parse settings = .ok inv) :
    loadFiles ws parse settings (moduleFiles ws settings) = .ok inv := by
  obtain ⟨_, -, h⟩ := bind_eq_ok.mp h
  dsimp only at h
  split at h
  · obtain ⟨_, -, h⟩ := bind_eq_ok.mp h
    exact h
  · exact h

end Modules

end ModuleDocs.Hcl
