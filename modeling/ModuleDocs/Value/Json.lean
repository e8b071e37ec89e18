import ModuleDocs.Text.Word
import ModuleDocs.Value.Basic

/-!
# Values as JSON

Reading keeps the order of the keys of an object; of two equal keys the later value is kept, in the
place of the first. Writing puts every control character in its escaped form.
-/
set_option autoImplicit false

namespace ModuleDocs.Json

open ModuleDocs.Text

/-! ## Reading -/

def isSpace (c : Char) : Bool := c == ' ' || c == '\n' || c == '\r' || c == '\t'

def skipSpace (cs : List Char) : List Char := cs.dropWhile isSpace

def code? : List Char → Option (Nat × List Char)
  | a :: b :: c :: d :: rest =>
    if [a, b, c, d].all fun x => (hexValue? x).isSome then some (hexNumber [a, b, c, d], rest) else none
  | _ => none

/-- A character given by its code, where two surrogates make one character. -/
def escapedCode? (cs : List Char) : Option (Char × List Char) := do
  let (n, rest) ← code? cs
  if 0xd800 ≤ n && n ≤ 0xdbff then
    match rest with
    | '\\' :: 'u' :: more =>
      let (m, rest) ← code? more
      if 0xdc00 ≤ m && m ≤ 0xdfff then
        return (Char.ofNat (0x10000 + (n - 0xd800) * 0x400 + (m - 0xdc00)), rest)
      else return (Char.ofNat 0xfffd, '\\' :: 'u' :: more)
    | _ => return (Char.ofNat 0xfffd, rest)
  else if 0xdc00 ≤ n && n ≤ 0xdfff then return (Char.ofNat 0xfffd, rest)
  else return (Char.ofNat n, rest)

def escape? : Char → Option Char
  | '"' => some '"'
  | '\\' => some '\\'
  | '/' => some '/'
  | 'b' => some (Char.ofNat 8)
  | 'f' => some (Char.ofNat 12)
  | 'n' => some '\n'
  | 'r' => some '\r'
  | 't' => some '\t'
  | _ => none

def string? : (fuel : Nat) → List Char → Option (List Char × List Char)
  | 0, _ => none
  | _ + 1, [] => none
  | _ + 1, '"' :: rest => some ([], rest)
  | fuel + 1, '\\' :: 'u' :: rest => do
    let (c, rest) ← escapedCode? rest
    let (cs, rest) ← string? fuel rest
    return (c :: cs, rest)
  | fuel + 1, '\\' :: c :: rest => do
    let c ← escape? c
    let (cs, rest) ← string? fuel rest
    return (c :: cs, rest)
  | fuel + 1, c :: rest => do
    let (cs, rest) ← string? fuel rest
    return (c :: cs, rest)

def digits (cs : List Char) : List Char × List Char :=
  (cs.takeWhile Char.isDigit, cs.dropWhile Char.isDigit)

/-- A number: whole unless it has a point or an exponent. -/
def number? (cs : List Char) : Option (Value × List Char) :=
  let (negative, cs) := match cs with
    | '-' :: rest => (true, rest)
    | _ => (false, cs)
  let (whole, cs) := digits cs
  let (point, fraction, cs) := match cs with
    | '.' :: rest => let (f, rest) := digits rest; (true, f, rest)
    | _ => (false, [], cs)
  let (power, exponent, cs) := match cs with
    | c :: rest =>
      if c = 'e' || c = 'E' then
        let (down, rest) := match rest with
          | '-' :: rest => (true, rest)
          | '+' :: rest => (false, rest)
          | _ => (false, rest)
        let (e, rest) := digits rest
        (true, (if down then -(decimalNumber e : Int) else decimalNumber e), rest)
      else (false, 0, cs)
    | [] => (false, 0, cs)
  if whole.isEmpty then none
  else if point || power then
    some (.float (.ofDecimal negative (decimalNumber (whole ++ fraction)) (exponent - fraction.length)), cs)
  else some (.int (if negative then -(decimalNumber whole : Int) else decimalNumber whole), cs)

mutual

def value? : (fuel : Nat) → List Char → Option (Value × List Char)
  | 0, _ => none
  | fuel + 1, cs =>
    match skipSpace cs with
    | 'n' :: 'u' :: 'l' :: 'l' :: rest => some (.null, rest)
    | 't' :: 'r' :: 'u' :: 'e' :: rest => some (.bool true, rest)
    | 'f' :: 'a' :: 'l' :: 's' :: 'e' :: rest => some (.bool false, rest)
    | '"' :: rest => do
      let (s, rest) ← string? rest.length rest
      return (.str (String.ofList s), rest)
    | '[' :: rest =>
      match skipSpace rest with
      | ']' :: rest => some (.list [], rest)
      | rest => do
        let (items, rest) ← items? fuel rest
        return (.list items, rest)
    | '\x7b' :: rest =>
      match skipSpace rest with
      | '\x7d' :: rest => some (.map [], rest)
      | rest => do
        let (entries, rest) ← entries? fuel [] rest
        return (.map entries, rest)
    | rest => number? rest

def items? : (fuel : Nat) → List Char → Option (List Value × List Char)
  | 0, _ => none
  | fuel + 1, cs => do
    let (v, rest) ← value? fuel cs
    match skipSpace rest with
    | ',' :: rest =>
      let (more, rest) ← items? fuel rest
      return (v :: more, rest)
    | ']' :: rest => return ([v], rest)
    | _ => none

def entries? : (fuel : Nat) → List (String × Value) → List Char →
    Option (List (String × Value) × List Char)
  | 0, _, _ => none
  | fuel + 1, found, cs =>
    match skipSpace cs with
    | '"' :: rest => do
      let (key, rest) ← string? rest.length rest
      match skipSpace rest with
      | ':' :: rest =>
        let (v, rest) ← value? fuel rest
        let found := Value.setEntry (String.ofList key) v found
        match skipSpace rest with
        | ',' :: rest => entries? fuel found rest
        | '\x7d' :: rest => return (found, rest)
        | _ => none
      | _ => none
    | _ => none

end

/-! ## Writing -/

def escapeText (s : String) : String :=
  String.ofList <| s.toList.flatMap fun c =>
    if c = '"' ∨ c = '\\' then ['\\', c]
    else if c.toNat < 32 then '\\' :: 'u' :: hexDigits 4 c.toNat
    else [c]

def quote (s : String) : String := "\"" ++ escapeText s ++ "\""

/-- A number with a point; what is no finite number is a word. -/
def numberText : Double → String
  | .notANumber => "NaN"
  | .infinite negative => if negative then "-Infinity" else "Infinity"
  | d => d.shortest

mutual

def render : Value → String
  | .null => "null"
  | .bool b => if b then "true" else "false"
  | .int n => toString n
  | .float d => numberText d
  | .str s => quote s
  | .list items => "[" ++ ", ".intercalate (renderItems items) ++ "]"
  | .map entries => "\x7b" ++ ", ".intercalate (renderEntries entries) ++ "\x7d"

def renderItems : List Value → List String
  | [] => []
  | v :: more => render v :: renderItems more

def renderEntries : List (String × Value) → List String
  | [] => []
  | (key, v) :: more => (quote key ++ ": " ++ render v) :: renderEntries more

end

end ModuleDocs.Json

namespace ModuleDocs

def Value.ofJson? (text : String) : Option Value :=
  match Json.value? (2 * text.length + 2) text.toList with
  | some (v, rest) => if (Json.skipSpace rest).isEmpty then some v else none
  | none => none

def Value.toJson (v : Value) : String := Json.render v

end ModuleDocs
