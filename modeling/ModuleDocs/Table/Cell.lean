import ModuleDocs.Error
import ModuleDocs.Number.Reader
import ModuleDocs.Pattern.Replace
import ModuleDocs.Text.Search

/-!
# Cells

What a cell holds, as far as the layout of its column depends on it: a truth value, a whole number, a
number or text. Terminal control codes in a cell are not counted for its width or its kind.
-/
set_option autoImplicit false

namespace ModuleDocs.Table

open ModuleDocs.Text

/-! ## Control codes -/

def escapeCode : Char := Char.ofNat 0x1b

/-- Control sequences, and links of which the fourth capture is the text. -/
def controlPattern? : Option Pattern :=
  Pattern.read?
    ("(\\x1b\\[[\\x30-\\x3f]*[\\x20-\\x2f]*[\\x40-\\x7e]" ++
      "|\\x1b\\]8;(\\w+=\\w+:?)*;([^\\x1b]+)\\x1b\\\\([^\\x1b]+)\\x1b\\]8;;\\x1b\\\\)")

def visible (cs : List Char) : List Char :=
  if cs.contains escapeCode then
    match controlPattern? with
    | some pattern => pattern.replaceIn [.capture 4] cs
    | none => cs
  else cs

/-! ## Kinds -/

inductive CellKind where
  | truth
  | whole
  | number
  | text
deriving Repr, DecidableEq

def CellKind.rank : CellKind → Nat
  | .truth => 0
  | .whole => 1
  | .number => 2
  | .text => 3

def CellKind.join (a b : CellKind) : CellKind := if a.rank ≤ b.rank then b else a

def CellKind.isNumeric : CellKind → Bool
  | .whole | .number => true
  | .truth | .text => false

/-- Whether a text is a number; infinity and not-a-number have one spelling each. -/
def isNumber (cs : List Char) : Bool :=
  match Number.double? cs with
  | none => false
  | some (.finite ..) => true
  | some _ => ["inf", "-inf", "nan"].contains (String.ofList (cs.map Char.toLower))

def cellKind (cs : List Char) : CellKind :=
  let cs := visible cs
  if cs = "True".toList ∨ cs = "False".toList then .truth
  else if (Number.int? cs).isSome then .whole
  else if isNumber cs then .number
  else .text

/-- The kind of a column: the widest kind of its cells. -/
def columnKind (cells : List (List Char)) : CellKind :=
  cells.foldl (fun kind cell => kind.join (cellKind cell)) .truth

/-! ## Formats -/

/-- A cell of a number column, with six significant digits. -/
def formatNumber (cs : List Char) : Except Error (List Char) :=
  let raw := visible cs
  match Number.double? raw with
  | none => .error .badNumber
  | some d =>
    let formatted := d.general.toList
    .ok (if raw = cs then formatted else replaceAll raw formatted cs)

def formatCells (kind : CellKind) (cells : List (List Char)) : Except Error (List (List Char)) :=
  match kind with
  | .number => cells.mapM formatNumber
  | _ => .ok cells

end ModuleDocs.Table
