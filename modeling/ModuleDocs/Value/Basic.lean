import ModuleDocs.Number.Double
import ModuleDocs.Text.Quoted

/-!
# Values

The data of a parsed configuration: scalars, lists, and maps that keep the order of their keys.
-/
set_option autoImplicit false

namespace ModuleDocs

inductive Value where
  | null
  | bool (b : Bool)
  | int (n : Int)
  | float (d : Double)
  | str (s : String)
  | list (items : List Value)
  | map (entries : List (String × Value))
deriving Repr, BEq

namespace Value

/-! ## Maps -/

def get? (key : String) : Value → Option Value
  | .map entries => entries.lookup key
  | _ => none

/-- Sets a key: an old one keeps its place, a new one comes last. -/
def setEntry {α : Type} (key : String) (value : α) : List (String × α) → List (String × α)
  | [] => [(key, value)]
  | (k, v) :: more => if k = key then (k, value) :: more else (k, v) :: setEntry key value more

/-- Whether a value counts as true: it is neither zero nor without content. -/
def isTrue : Value → Bool
  | .null | .bool false | .int 0 | .str "" | .list [] | .map [] => false
  | .float (.finite _ 0 _) => false
  | _ => true

/-! ## Text -/

mutual

/-- A value as written inside other values: texts are quoted. -/
def inner : Value → String
  | .null => "None"
  | .bool b => if b then "True" else "False"
  | .int n => toString n
  | .float d => d.shortest
  | .str s => quotedText s
  | .list items => "[" ++ ", ".intercalate (innerItems items) ++ "]"
  | .map entries => "\x7b" ++ ", ".intercalate (innerEntries entries) ++ "\x7d"

def innerItems : List Value → List String
  | [] => []
  | v :: more => v.inner :: innerItems more

def innerEntries : List (String × Value) → List String
  | [] => []
  | (key, v) :: more => (quotedText key ++ ": " ++ v.inner) :: innerEntries more

end

/-- A value as text: a text stands for itself. -/
def text : Value → String
  | .str s => s
  | v => v.inner

end Value

end ModuleDocs
