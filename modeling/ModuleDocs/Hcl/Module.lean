import ModuleDocs.Hcl.Locate
import ModuleDocs.Settings.Basic
import ModuleDocs.Workspace

/-!
# Modules

The declarations of all files of a module, each with its place, in six tables that keep the order in
which their entries were found.
-/
set_option autoImplicit false

namespace ModuleDocs.Hcl

/-! ## Items and tables -/

/-- A declaration with the line it starts at, its block, and its file. -/
structure Item (α : Type) where
  data : α
  loc : Int
  block : String
  file : Path
deriving Repr

abbrev ItemTable (α : Type) := List (String × Item α)

/-- The declarations of a file or a module. -/
structure Inventory where
  resources : ItemTable ResourceFields := []
  locals : ItemTable LocalFields := []
  inputs : ItemTable VariableFields := []
  outputs : ItemTable OutputFields := []
  validationOutputs : ItemTable OutputFields := []
  validationResources : ItemTable ResourceFields := []
deriving Repr

/-- A declaration under the name it is shown by, with the way to find it. -/
structure Entry (α : Type) where
  name : String
  data : α
  find : String → Except Error (List (Nat × String))

/-! ## Entries of a file -/

def Variable.entry (v : Variable) : Entry VariableFields := ⟨v.name, v.fields, v.find⟩

def Output.entry (o : Output) : Entry OutputFields := ⟨o.name, o.fields, o.find⟩

def Local.entry (l : Local) : Entry LocalFields := ⟨l.name, l.fields, l.find⟩

/-- A resource is shown by its type, followed by its identifier if that is asked for. -/
def Resource.entry (addIdentifier : Bool) (r : Resource) : Except Error (Entry ResourceFields) := do
  let (identifier, fields) ← r.identified
  return ⟨if addIdentifier then r.type ++ "." ++ identifier else r.type, fields, r.find⟩

/-- A resource that only checks something, by the name it is shown by. -/
def isValidationResource (name : String) : Bool :=
  Text.occursIn ".validation_".toList name.toList || Text.occursIn ".validate_".toList name.toList

/-- Adds an entry to a table. With `replace` an entry of the same name is replaced in its place,
otherwise it is an error. -/
def addItem {α : Type} (kind : String) (replace : Bool) (table : ItemTable α) (name : String)
    (item : Item α) : Except Error (ItemTable α) :=
  if (table.lookup name).isSome && !replace then .error (.alreadyDefined kind name)
  else .ok (Value.setEntry name item table)

def Entry.item {α : Type} (file : Path) (text : String) (e : Entry α) : Except Error (Item α) := do
  match ← e.find text with
  | [(loc, block)] => return ⟨e.data, loc, block, file⟩
  | found => .error (.matchCount found.length e.name)

/-- The table of some entries of a file. A name that is taken already is reported before the entry is
looked for. -/
def tableOf {α : Type} (kind : String) (replace : Bool) (file : Path) (text : String)
    (entries : List (Entry α)) : Except Error (ItemTable α) :=
  entries.foldlM (fun table e => do
    if (table.lookup e.name).isSome && !replace then .error (.alreadyDefined kind e.name)
    addItem kind replace table e.name (← e.item file text)) []

/-- The inventory of a file, from its text and its declarations. -/
def fileInventory (settings : Settings) (file : Path) (text : String) (d : Declarations) :
    Except Error Inventory := do
  settings.ensure .tableFormat
  let addIdentifier := settings.format.addResourceIdentifier
  let all ← d.resources.mapM (Resource.entry addIdentifier)
  let locals ← tableOf "locals" false file text (d.locals.flatten.map Local.entry)
  let inputs ← tableOf "variable" false file text (d.inputs.map Variable.entry)
  let outputs ← tableOf "output" false file text
    ((d.outputs.filter (!·.isValidation)).map Output.entry)
  let validationOutputs ← tableOf "validation_output" false file text
    ((d.outputs.filter (·.isValidation)).map Output.entry)
  let validationResources ← tableOf "validation_resource" false file text
    (all.filter fun e => isValidationResource e.name)
  let resources ← tableOf "resource" (!addIdentifier) file text
    (all.filter fun e => !isValidationResource e.name)
  return { resources, locals, inputs, outputs, validationOutputs, validationResources }

/-! ## Inventories of modules -/

/-- A parser of the configuration language, from the text of a file to its value. -/
abbrev Parser := String → Except Error Value

def loadFile (ws : Workspace) (parse : Parser) (settings : Settings) (file : Path) :
    Except Error Inventory := do
  let text ← ws.read file
  fileInventory settings file text (← Declarations.ofValue (← parse text))

def addItems {α : Type} (kind : String) (replace : Bool) (table new : ItemTable α) :
    Except Error (ItemTable α) :=
  new.foldlM (fun table e => addItem kind replace table e.1 e.2) table

def Inventory.add (settings : Settings) (all new : Inventory) : Except Error Inventory := do
  let locals ← addItems "locals" false all.locals new.locals
  let inputs ← addItems "variable" false all.inputs new.inputs
  let outputs ← addItems "output" false all.outputs new.outputs
  let validationOutputs ← addItems "validation_output" false all.validationOutputs new.validationOutputs
  let validationResources ←
    addItems "validation_resource" false all.validationResources new.validationResources
  let resources ←
    addItems "resource" (!settings.format.addResourceIdentifier) all.resources new.resources
  return { resources, locals, inputs, outputs, validationOutputs, validationResources }

/-- The files of a module in the order of their names; those made automatically may be left out. -/
def moduleFiles (ws : Workspace) (settings : Settings) : List Path :=
  match ws.files.find ws.cwd settings.modulePath with
  | .ok (dir, .directory) =>
    let names := (ws.files.fileNames dir).filter fun name =>
      finishesWith name ".tf" && !(settings.format.skipAuto && beginsWith name "auto.")
    (names.mergeSort (· ≤ ·)).map fun name => settings.modulePath.join ⟨.here, [name]⟩
  | _ => []

/-- The inventory of some files, read and then put together in order. -/
def loadFiles (ws : Workspace) (parse : Parser) (settings : Settings) (files : List Path) :
    Except Error Inventory := do
  let inventories ← files.mapM (loadFile ws parse settings)
  inventories.foldlM (Inventory.add settings) {}

def loadModule (ws : Workspace) (parse : Parser) (settings : Settings) : Except Error Inventory := do
  settings.ensure .moduleFiles
  let files := moduleFiles ws settings
  if !files.isEmpty then settings.ensure .tableFormat
  loadFiles ws parse settings files

end ModuleDocs.Hcl
