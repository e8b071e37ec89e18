import ModuleDocs.Value.Decode
import ModuleDocs.Text.Search

/-!
# Declarations

The declarations of a parsed file: variables, outputs, local values and resources, each with the fields
that are documented. They are read from the values that a parser of the configuration language gives.
-/
set_option autoImplicit false

namespace ModuleDocs.Hcl

/-! ## Fields -/

/-- A condition and what is reported where it does not hold. -/
structure Validation where
  condition : String
  errorMessage : String
deriving Repr, DecidableEq

/-- The fields of a variable; without a default it is required. -/
structure VariableFields where
  type : String
  description : String
  default : Option Value := none
  validation : List Validation := []
deriving Repr

def VariableFields.isRequired (v : VariableFields) : Bool := v.default.isNone

structure OutputFields where
  value : Option String
  description : String
  precondition : List Validation := []
  postcondition : List Validation := []
deriving Repr

/-- The fields of a resource, as they come from the parser. -/
structure ResourceFields where
  entries : List (String × Value)
deriving Repr

structure LocalFields where
  value : Value
deriving Repr

/-! ## Conditions of resources -/

def lifecycleCondition : Value → Except Error Validation
  | .map entries => do
    let message ←
      match entries.lookup "error_message" with
      | none => pure ""
      | some (.str s) => pure s
      | some _ => .error .invalid
    return ⟨((entries.lookup "condition").map Value.text).getD "", message⟩
  | _ => .error .lifecycleEntry

def lifecycleConditions (kind : String) : Value → Except Error (List Validation)
  | .map entries =>
    match entries.lookup kind with
    | none => .ok []
    | some (.list items) => items.mapM lifecycleCondition
    | some (.map []) | some (.str "") => .ok []
    | some (.map _) | some (.str _) => .error .lifecycleEntry
    | some _ => .error .lifecycleShape
  | _ => .error .lifecycleEntry

/-- The conditions of one kind that a resource has in the first entry of its lifecycle. -/
def ResourceFields.conditions (r : ResourceFields) (kind : String) : Except Error (List Validation) :=
  match r.entries.lookup "lifecycle" with
  | none | some (.map _) => .ok []
  | some (.list []) | some (.str "") => .error .lifecycleEmpty
  | some (.list (first :: _)) => lifecycleConditions kind first
  | some (.str _) => .error .lifecycleEntry
  | some _ => .error .lifecycleShape

def ResourceFields.precondition (r : ResourceFields) : Except Error (List Validation) :=
  r.conditions "precondition"

def ResourceFields.postcondition (r : ResourceFields) : Except Error (List Validation) :=
  r.conditions "postcondition"

/-! ## Declarations -/

structure Variable where
  name : String
  fields : VariableFields
deriving Repr

structure Output where
  name : String
  fields : OutputFields
deriving Repr

structure Local where
  name : String
  fields : LocalFields
deriving Repr

/-- A resource of some type; the first of its identifiers is the one that counts. -/
structure Resource where
  type : String
  instances : List (String × ResourceFields)
deriving Repr

def Resource.identified (r : Resource) : Except Error (String × ResourceFields) :=
  match r.instances with
  | [] => .error .noIdentifier
  | first :: _ => .ok first

/-- An output that only checks something. -/
def Output.isValidation (o : Output) : Bool :=
  beginsWith o.name "validate_" || beginsWith o.name "validation_"

def Output.validations? (o : Output) : Option (List Validation) :=
  if o.isValidation then some (o.fields.precondition ++ o.fields.postcondition) else none

/-- The declarations of a file; the locals come in blocks. -/
structure Declarations where
  resources : List Resource := []
  locals : List (List Local) := []
  inputs : List Variable := []
  outputs : List Output := []
deriving Repr

/-! ## Reading -/

open Decode

def Validation.ofValue (v : Value) : Except Error Validation := do
  let entries ← map v
  return ⟨← required entries "condition" text, ← required entries "error_message" text⟩

def VariableFields.ofValue (v : Value) : Except Error VariableFields := do
  let entries ← map v
  return {
    type := ← required entries "type" text
    description := ← required entries "description" text
    default := entries.lookup "default"
    validation := ← field entries "validation" (list Validation.ofValue) [] }

def optionalText : Value → Except Error (Option String)
  | .null => .ok none
  | .str s => .ok (some s)
  | _ => .error .invalid

def OutputFields.ofValue (v : Value) : Except Error OutputFields := do
  let entries ← map v
  return {
    value := ← required entries "value" optionalText
    description := ← required entries "description" text
    precondition := ← field entries "precondition" (list Validation.ofValue) []
    postcondition := ← field entries "postcondition" (list Validation.ofValue) [] }

def ResourceFields.ofValue (v : Value) : Except Error ResourceFields := do return ⟨← map v⟩

def LocalFields.ofValue (v : Value) : Except Error LocalFields := .ok ⟨v⟩

def single (v : Value) : Except Error (String × Value) := do
  match ← map v with
  | [entry] => return entry
  | _ => .error .invalid

def Variable.ofValue (v : Value) : Except Error Variable := do
  let (name, v) ← single v
  return ⟨name, ← VariableFields.ofValue v⟩

def Output.ofValue (v : Value) : Except Error Output := do
  let (name, v) ← single v
  return ⟨name, ← OutputFields.ofValue v⟩

def Local.ofValue (v : Value) : Except Error Local := do
  let (name, v) ← single v
  return ⟨name, ⟨v⟩⟩

def Resource.ofValue (v : Value) : Except Error Resource := do
  let (type, v) ← single v
  return ⟨type, ← (← map v).mapM fun e => do return (e.1, ← ResourceFields.ofValue e.2)⟩

def localBlock (v : Value) : Except Error (List Local) := do
  return (← map v).map fun e => ⟨e.1, ⟨e.2⟩⟩

def Declarations.ofValue (v : Value) : Except Error Declarations := do
  let entries ← map v
  return {
    resources := ← field entries "resource" (list Resource.ofValue) []
    locals := ← field entries "locals" (list localBlock) []
    inputs := ← field entries "variable" (list Variable.ofValue) []
    outputs := ← field entries "output" (list Output.ofValue) [] }

end ModuleDocs.Hcl
