import ModuleDocs.Error
import ModuleDocs.Yaml.Datum

/-!
# Data of declared types

Reading data that must have exactly the type that is asked for.
-/
set_option autoImplicit false

namespace ModuleDocs.Yaml

namespace Typed

def bool : Datum → Except Error Bool
  | .bool b => .ok b
  | _ => .error .invalid

def int : Datum → Except Error Int
  | .int n => .ok n
  | _ => .error .invalid

def text : Datum → Except Error String
  | .str s => .ok s
  | _ => .error .invalid

def list {α : Type} (decode : Datum → Except Error α) : Datum → Except Error (List α)
  | .list items => items.mapM decode
  | _ => .error .invalid

def map : Datum → Except Error (List (Datum × Datum))
  | .map entries => .ok entries
  | _ => .error .invalid

def field {α : Type} (entries : List (Datum × Datum)) (name : String) (decode : Datum → Except Error α)
    (default : α) : Except Error α :=
  match Datum.entry? name entries with
  | none => .ok default
  | some d => decode d

def required {α : Type} (entries : List (Datum × Datum)) (name : String)
    (decode : Datum → Except Error α) : Except Error α :=
  match Datum.entry? name entries with
  | none => .error .invalid
  | some d => decode d

end Typed

end ModuleDocs.Yaml
