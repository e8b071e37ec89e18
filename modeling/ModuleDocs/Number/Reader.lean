import ModuleDocs.Number.Double
import ModuleDocs.Text.Blank
import ModuleDocs.Text.Word

/-!
# Reading numbers

Whole and floating-point numbers as they may be written in text: blanks around them, a sign, decimal
digits of any script, and single underscores between digits.
-/
set_option autoImplicit false

namespace ModuleDocs.Number

open ModuleDocs.Text

/-- The digits at the start of a text, with an underscore after a digit (`within`) and before another
one left out, and the rest. -/
def takeDigits (within : Bool) : List Char → List Nat × List Char
  | [] => ([], [])
  | c :: rest =>
    match digitValue? c with
    | some d =>
      let (ds, rest) := takeDigits true rest
      (d :: ds, rest)
    | none => if within && c == '_' && rest.head?.any isDigit then takeDigits false rest else ([], c :: rest)

def ofDigits (ds : List Nat) : Nat := ds.foldl (fun n d => 10 * n + d) 0

/-- A sign, and what follows it. -/
def takeSign : List Char → Bool × List Char
  | '-' :: rest => (true, rest)
  | '+' :: rest => (false, rest)
  | cs => (false, cs)

/-- A whole number of at most 4300 digits. -/
def int? (cs : List Char) : Option Int :=
  let (negative, rest) := takeSign (trim cs)
  let (ds, rest) := takeDigits false rest
  if ds.isEmpty || !rest.isEmpty || ds.length > 4300 then none
  else some (if negative then -(ofDigits ds : Int) else ofDigits ds)

/-- The exponent at the end of a number; no text is exponent 0. -/
def exponent? : List Char → Option Int
  | [] => some 0
  | c :: rest =>
    if c = 'e' || c = 'E' then
      let (negative, rest) := takeSign rest
      let (ds, rest) := takeDigits false rest
      if ds.isEmpty || !rest.isEmpty then none
      else some (if negative then -(ofDigits ds : Int) else ofDigits ds)
    else none

def double? (cs : List Char) : Option Double :=
  let (negative, rest) := takeSign (trim cs)
  let word := String.ofList (rest.map Char.toLower)
  if word = "inf" ∨ word = "infinity" then some (.infinite negative)
  else if word = "nan" then some .notANumber
  else
    let (whole, rest) := takeDigits false rest
    let (fraction, rest) :=
      match rest with
      | '.' :: rest => takeDigits false rest
      | _ => ([], rest)
    if whole.isEmpty && fraction.isEmpty then none
    else (exponent? rest).map fun e =>
      Double.ofDecimal negative (ofDigits (whole ++ fraction)) (e - fraction.length)

end ModuleDocs.Number
