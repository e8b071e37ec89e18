import ModuleDocs.Calendar
import ModuleDocs.Value.Basic

/-!
# The data of YAML

What a YAML document holds. Beyond values it has dates, times, bytes and sets, and its maps have keys of any
kind. Numbers that are equal are the same key, whatever their kind.
-/
set_option autoImplicit false

namespace ModuleDocs.Yaml

inductive Datum where
  | null
  | bool (b : Bool)
  | int (n : Int)
  | float (d : Double)
  | str (s : String)
  | day (count : Nat)
  | moment (micros : Int)
  | bytes (bs : List Nat)
  | list (items : List Datum)
  | map (entries : List (Datum × Datum))
  | set (items : List Datum)
  | enclosing
deriving Repr, BEq

namespace Datum

/-! ## Keys -/

def isWhole (n : Int) : Double → Bool
  | .finite negative m e =>
    let (num, den) := Double.scaled m 2 e
    n * den = if negative then -(num : Int) else num
  | _ => false

def sameDouble : Double → Double → Bool
  | .finite _ 0 _, .finite _ 0 _ => true
  | .notANumber, _ => false
  | a, b => a == b

mutual

def isSame : Datum → Datum → Bool
  | .null, .null => true
  | .bool a, .bool b => a == b
  | .bool a, .int b => (if a then 1 else 0) == b
  | .bool a, .float b => isWhole (if a then 1 else 0) b
  | .int a, .bool b => a == if b then 1 else 0
  | .int a, .int b => a == b
  | .int a, .float b => isWhole a b
  | .float a, .bool b => isWhole (if b then 1 else 0) a
  | .float a, .int b => isWhole b a
  | .float a, .float b => sameDouble a b
  | .str a, .str b => a == b
  | .day a, .day b => a == b
  | .moment a, .moment b => a == b
  | .bytes a, .bytes b => a == b
  | .list a, .list b => areSame a b
  | _, _ => false

def areSame : List Datum → List Datum → Bool
  | [], [] => true
  | a :: as, b :: bs => a.isSame b && areSame as bs
  | _, _ => false

end

def isSingle : Datum → Bool
  | .list _ | .map _ | .set _ | .enclosing => false
  | _ => true

/-- Sets a key: an old one keeps its place, a new one comes last. -/
def setEntry (key value : Datum) : List (Datum × Datum) → List (Datum × Datum)
  | [] => [(key, value)]
  | (k, v) :: more => if k.isSame key then (k, value) :: more else (k, v) :: setEntry key value more

def entry? (name : String) (entries : List (Datum × Datum)) : Option Datum :=
  (entries.find? fun e => e.1.isSame (.str name)).map (·.2)

def isFilled : Datum → Bool
  | .null | .bool false | .int 0 | .str "" | .bytes [] | .list [] | .map [] | .set [] => false
  | .float (.finite _ 0 _) => false
  | _ => true

/-! ## Values -/

mutual

def ofValue : Value → Datum
  | .null => .null
  | .bool b => .bool b
  | .int n => .int n
  | .float d => .float d
  | .str s => .str s
  | .list items => .list (ofItems items)
  | .map entries => .map (ofEntries entries)

def ofItems : List Value → List Datum
  | [] => []
  | v :: more => ofValue v :: ofItems more

def ofEntries : List (String × Value) → List (Datum × Datum)
  | [] => []
  | (key, v) :: more => (.str key, ofValue v) :: ofEntries more

end

def keyText : Datum → String
  | .null => "null"
  | .bool b => if b then "true" else "false"
  | .int n => toString n
  | .float d => d.shortest
  | .str s => s
  | .day n => Calendar.dayText n
  | .moment n => Calendar.momentText n.toNat
  | _ => ""

mutual

/-- A datum as a value: dates and times are written out, bytes and sets are lists, and keys are texts. -/
def toValue : Datum → Value
  | .null | .enclosing => .null
  | .bool b => .bool b
  | .int n => .int n
  | .float d => .float d
  | .str s => .str s
  | .day n => .str (Calendar.dayText n)
  | .moment n => .str (Calendar.momentText n.toNat)
  | .bytes bs => .list (bs.map fun (b : Nat) => .int b)
  | .list items | .set items => .list (toItems items)
  | .map entries => .map (toEntries entries)

def toItems : List Datum → List Value
  | [] => []
  | d :: more => d.toValue :: toItems more

def toEntries : List (Datum × Datum) → List (String × Value)
  | [] => []
  | (key, d) :: more => (keyText key, d.toValue) :: toEntries more

end

end Datum

end ModuleDocs.Yaml
