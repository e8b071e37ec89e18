import ModuleDocs.Error
import ModuleDocs.Value.Basic

/-!
# Values of declared types

Reading values that must have exactly the type that is asked for.
-/
set_option autoImplicit false

namespace ModuleDocs

namespace Decode

def bool : Value → Except Error Bool
  | .bool b => .ok b
  | _ => .error .invalid

def int : Value → Except Error Int
  | .int n => .ok n
  | _ => .error .invalid

def text : Value → Except Error String
  | .str s => .ok s
  | _ => .error .invalid

def list {α : Type} (decode : Value → Except Error α) : Value → Except Error (List α)
  | .list items => items.mapM decode
  | _ => .error .invalid

def map : Value → Except Error (List (String × Value))
  | .map entries => .ok entries
  | _ => .error .invalid

def field {α : Type} (entries : List (String × Value)) (name : String) (decode : Value → Except Error α)
    (default : α) : Except Error α :=
  match entries.lookup name with
  | none => .ok default
  | some v => decode v

def required {α : Type} (entries : List (String × Value)) (name : String)
    (decode : Value → Except Error α) : Except Error α :=
  match entries.lookup name with
  | none => .error .invalid
  | some v => decode v

end Decode

end ModuleDocs
