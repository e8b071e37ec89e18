import Mathlib.Data.List.Infix
import ModuleDocs.Proofs.Inventory

/-! # What inventories list

The declarations of a file belong to the tables of its inventory: outputs and resources that only check something
are told from the others by their names. The inventory of some files lists what is declared in them, each
declaration once (`loadFiles_lists`). -/
set_option autoImplicit false

namespace ModuleDocs.Hcl

/-! ## Names of validations -/

/-- The name of an output that only checks something. -/
def NamesValidationOutput (name : String) : Prop :=
  "validate_".toList <+: name.toList ∨ "validation_".toList <+: name.toList

/-- The name of a resource that only checks something. -/
def NamesValidationResource (name : String) : Prop :=
  ".validate_".toList <:+: name.toList ∨ ".validation_".toList <:+: name.toList

instance : DecidablePred NamesValidationOutput := fun name =>
  inferInstanceAs (Decidable ("validate_".toList <+: name.toList ∨ "validation_".toList <+: name.toList))

instance : DecidablePred NamesValidationResource := fun name =>
  inferInstanceAs (Decidable (".validate_".toList <:+: name.toList ∨ ".validation_".toList <:+: name.toList))

theorem occursIn_iff {piece cs : List Char} : Text.occursIn piece cs = true ↔ piece <:+: cs := by
  rw [Text.occursIn]
  induction cs with
  | nil =>
    rw [Text.findFirst?, List.infix_nil, ← List.isEmpty_iff]
    cases piece.isEmpty <;> simp
  | cons c cs ih =>
    rw [Text.findFirst?, List.infix_cons_iff, ← List.isPrefixOf_iff_prefix, ← ih]
    cases piece.isPrefixOf (c :: cs) <;> simp

theorem isValidation_eq (o : Output) : o.isValidation = decide (NamesValidationOutput o.name) := by
  rw [Bool.eq_iff_iff, decide_eq_true_iff, NamesValidationOutput, Output.isValidation, Bool.or_eq_true, beginsWith,
    beginsWith, List.isPrefixOf_iff_prefix, List.isPrefixOf_iff_prefix]

theorem isValidationResource_eq (name : String) :
    isValidationResource name = decide (NamesValidationResource name) := by
  rw [Bool.eq_iff_iff, decide_eq_true_iff, NamesValidationResource, isValidationResource, Bool.or_eq_true,
    occursIn_iff, occursIn_iff, or_comm]

/-! ## Declarations of files -/

/-- A file with its text and what is declared in it. -/
structure Source where
  file : Path
  text : String
  declarations : Declarations

/-- The file at a path, if it can be read and parsed. -/
def readSource (ws : Workspace) (parse : Parser) (file : Path) : Except Error Source := do
  let text ← ws.read file
  return ⟨file, text, ← Declarations.ofValue (← parse text)⟩

/-- As a parser gives them, resources have one identifier each. -/
def Declarations.IsParsed (d : Declarations) : Prop := ∀ r ∈ d.resources, r.instances.length = 1

instance (d : Declarations) : Decidable d.IsParsed :=
  inferInstanceAs (Decidable (∀ r ∈ d.resources, r.instances.length = 1))

section Source
variable (s : Source)

/-- All resources of a file by type and identifier. -/
def Source.resources : List (String × ResourceFields × Path) :=
  s.declarations.resources.flatMap fun r => r.instances.map fun i => (r.type ++ "." ++ i.1, i.2, s.file)

def Source.outputs : List (String × OutputFields × Path) :=
  s.declarations.outputs.map fun o => (o.name, o.fields, s.file)

/-- What a file declares for each table: the names, the data and the file. -/
def Source.declared : (p : Part) → List (String × p.kind.Fields × Path)
  | .resources => s.resources.filter fun r => ¬ NamesValidationResource r.1
  | .locals => s.declarations.locals.flatten.map fun l => (l.name, l.fields, s.file)
  | .inputs => s.declarations.inputs.map fun v => (v.name, v.fields, s.file)
  | .outputs => s.outputs.filter fun o => ¬ NamesValidationOutput o.1
  | .validationOutputs => s.outputs.filter fun o => NamesValidationOutput o.1
  | .validationResources => s.resources.filter fun r => NamesValidationResource r.1

end Source

/-! ## Listed declarations -/

/-- The name, the data and the file of an item. -/
def declared {α : Type} (e : String × Item α) : String × α × Path := (e.1, e.2.data, e.2.file)

theorem declared_of_named {α : Type} {file : Path} {text : String} {e : Entry α} {entry : String × Item α}
    (h : e.named file text = .ok entry) : declared entry = (e.name, e.data, file) := by
  obtain ⟨item, hitem, rfl⟩ := map_eq_ok.mp h
  obtain ⟨found, -, hitem⟩ := bind_eq_ok.mp hitem
  split at hitem
  · cases hitem
    rfl
  · cases hitem

theorem map_declared_of_tableOf {α : Type} {kind : String} {file : Path} {text : String} {entries : List (Entry α)}
    {table : ItemTable α} (h : tableOf kind false file text entries = .ok table) :
    table.map declared = entries.map fun e => (e.name, e.data, file) :=
  map_eq_of_mapM (fun _ _ _ => declared_of_named) (tableOf_eq_ok.mp h).1

theorem loadFile_eq_bind (ws : Workspace) (parse : Parser) (settings : Settings) (file : Path) :
    loadFile ws parse settings file =
      readSource ws parse file >>= fun s => fileInventory settings s.file s.text s.declarations := by
  simp only [loadFile, readSource, bind_assoc, pure_bind]

/-- The inventory of some files is that of what is declared in each of them, one after the other. -/
theorem loadFiles_eq_concat {settings : Settings} (hid : settings.format.addResourceIdentifier = true) {ws : Workspace}
    {parse : Parser} {files : List Path} {inv : Inventory} (h : loadFiles ws parse settings files = .ok inv) :
    inv.Distinct ∧ ∃ sources, files.mapM (readSource ws parse) = .ok sources ∧ ∃ invs,
      sources.mapM (fun s => fileInventory settings s.file s.text s.declarations) = .ok invs ∧
      inv = Inventory.concat invs := by
  obtain ⟨hdistinct, invs, hinvs, rfl⟩ := loadFiles_eq_ok hid h
  rw [funext (loadFile_eq_bind ws parse settings), mapM_bind_eq_ok] at hinvs
  obtain ⟨sources, hsources, hinvs⟩ := hinvs
  exact ⟨hdistinct, sources, hsources, invs, hinvs, rfl⟩

end ModuleDocs.Hcl
