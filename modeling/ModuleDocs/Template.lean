import ModuleDocs.Error
import ModuleDocs.Text.Word

/-!
# Templates

Text with fields in braces, filled in with named values. A doubled brace stands for one brace. A field
may go on to one character of the value or to its class, ask for it in quotes, and have a format with fill
character, alignment, width and precision; the format may have fields of its own.
-/
set_option autoImplicit false

namespace ModuleDocs.Template

open ModuleDocs.Text

/-! ## Fields -/

/-- A field as written: the name with what follows it in brackets or after points, the conversion
after an exclamation mark, and the format after a colon. -/
structure Field where
  name : List Char
  conversion : Option Char
  format : List Char
deriving Repr, DecidableEq

/-- The text of a name up to the character that ends it, which is given too. Between brackets no
character ends it. -/
def takeName (inBrackets : Bool) : List Char → Except Error (List Char × Char × List Char)
  | [] => .error .badTemplate
  | c :: rest =>
    if inBrackets then do
      let (name, stop, rest) ← takeName (c ≠ ']') rest
      return (c :: name, stop, rest)
    else if c = '\x7b' then .error .badTemplate
    else if c = '\x7d' ∨ c = ':' ∨ c = '!' then .ok ([], c, rest)
    else do
      let (name, stop, rest) ← takeName (c = '[') rest
      return (c :: name, stop, rest)

def takeFormat (depth : Nat) : List Char → Except Error (List Char × List Char)
  | [] => .error .badTemplate
  | c :: rest =>
    if c = '\x7d' ∧ depth = 0 then .ok ([], rest)
    else do
      let depth := if c = '\x7b' then depth + 1 else if c = '\x7d' then depth - 1 else depth
      let (format, rest) ← takeFormat depth rest
      return (c :: format, rest)

def readField (cs : List Char) : Except Error (Field × List Char) := do
  let (name, stop, rest) ← takeName false cs
  if stop = '\x7d' then return (⟨name, none, []⟩, rest)
  else if stop = ':' then
    let (format, rest) ← takeFormat 0 rest
    return (⟨name, none, format⟩, rest)
  else match rest with
    | conversion :: '\x7d' :: rest => return (⟨name, some conversion, []⟩, rest)
    | conversion :: ':' :: rest =>
      let (format, rest) ← takeFormat 0 rest
      return (⟨name, some conversion, format⟩, rest)
    | _ => .error .badTemplate

/-! ## Numbers -/

def maxNumber : Nat := 9223372036854775807

/-- The number that decimal digits of any script write at the start of a text, and what follows it. -/
def takeNumber (sum : Nat) : List Char → Except Error (Nat × List Char)
  | [] => .ok (sum, [])
  | c :: rest =>
    match digitValue? c with
    | none => .ok (sum, c :: rest)
    | some d => if 10 * sum + d > maxNumber then .error .badTemplate else takeNumber (10 * sum + d) rest

/-- The number that a text is, if it has nothing but digits. -/
def number? (cs : List Char) : Except Error (Option Nat) := do
  let (n, rest) ← takeNumber 0 cs
  return if cs.isEmpty || !rest.isEmpty then none else some n

/-! ## Values -/

/-- What a field may come to: a text, a class, several classes, or nothing. -/
inductive Referent where
  | text (cs : List Char)
  | kind (name : String)
  | kinds (names : List String)
  | nothing
deriving Repr, DecidableEq

namespace Referent

def kindName : Referent → String
  | .text _ => "str"
  | .kind _ => "type"
  | .kinds _ => "tuple"
  | .nothing => "NoneType"

def shown : Referent → List Char
  | .text cs => cs
  | .kind name => s!"<class '{name}'>".toList
  | .kinds [name] => s!"(<class '{name}'>,)".toList
  | .kinds names => ("(" ++ ", ".intercalate (names.map fun name => s!"<class '{name}'>") ++ ")").toList
  | .nothing => "None".toList

/-- What a value has under a name. Every class but the one of all values is directly below that one. -/
def member (value : Referent) (name : String) : Except Error Referent :=
  if name = "__class__" then .ok (.kind value.kindName)
  else
    match value with
    | .kind own =>
      let top := own = "object"
      match name with
      | "__name__" | "__qualname__" => .ok (.text own.toList)
      | "__module__" => .ok (.text "builtins".toList)
      | "__base__" => .ok (if top then .nothing else .kind "object")
      | "__bases__" => .ok (.kinds (if top then [] else ["object"]))
      | "__mro__" => .ok (.kinds (if top then [own] else [own, "object"]))
      | _ => .error .unknownAttribute
    | _ => .error .unknownAttribute

def part (value : Referent) (index : Nat) : Except Error Referent :=
  match value with
  | .text cs =>
    match cs[index]? with
    | some c => .ok (.text [c])
    | none => .error .positionalField
  | .kinds names =>
    match names[index]? with
    | some name => .ok (.kind name)
    | none => .error .positionalField
  | _ => .error .badIndex

end Referent

def access (value : Referent) (cs : List Char) : Except Error Referent :=
  match cs with
  | [] => .ok value
  | '.' :: rest =>
    let name := rest.takeWhile fun c => c ≠ '.' ∧ c ≠ '['
    if name.isEmpty then .error .badTemplate
    else do access (← value.member (String.ofList name)) (rest.drop name.length)
  | '[' :: rest =>
    let index := rest.takeWhile (· ≠ ']')
    if index.length == rest.length then .error .badTemplate
    else do
      match ← number? index with
      | some n => access (← value.part n) (rest.drop (index.length + 1))
      | none => if index.isEmpty then .error .badTemplate else .error .badIndex
  | _ :: _ => .error .badTemplate
termination_by cs.length
decreasing_by all_goals (simp only [List.length_drop, List.length_cons]; omega)

def look (values : List (String × String)) (name : List Char) : Except Error Referent := do
  let key := name.takeWhile fun c => c ≠ '.' ∧ c ≠ '['
  if key.isEmpty || (← number? key).isSome then .error .positionalField
  else match values.lookup (String.ofList key) with
    | none => .error .unknownField
    | some value => access (.text value.toList) (name.drop key.length)

def escapedText (cs : List Char) : List Char :=
  cs.flatMap fun c =>
    if c.toNat < 0x80 then [c]
    else if c.toNat < 0x100 then '\\' :: 'x' :: hexDigits 2 c.toNat
    else if c.toNat < 0x10000 then '\\' :: 'u' :: hexDigits 4 c.toNat
    else '\\' :: 'U' :: hexDigits 8 c.toNat

/-- A value in quotes, if it is a text. -/
def Referent.quoted : Referent → List Char
  | .text cs => Text.quoted cs
  | value => value.shown

/-- A value as it stands, or its text, also in quotes. -/
def convert (value : Referent) : Option Char → Except Error Referent
  | none => .ok value
  | some 's' => .ok (.text value.shown)
  | some 'r' => .ok (.text value.quoted)
  | some 'a' => .ok (.text (escapedText value.quoted))
  | some _ => .error .badTemplate

/-! ## Formats -/

inductive Alignment where
  | left
  | right
  | center
deriving Repr, DecidableEq

def alignment? : Char → Option Alignment
  | '<' => some .left
  | '>' => some .right
  | '^' => some .center
  | _ => none

def takeAlignment : List Char → Option Char × Option Alignment × List Char
  | c :: d :: rest =>
    match alignment? d with
    | some a => (some c, some a, rest)
    | none => (none, alignment? c, if (alignment? c).isSome then d :: rest else c :: d :: rest)
  | c :: [] => (none, alignment? c, if (alignment? c).isSome then [] else [c])
  | [] => (none, none, [])

def pad (fill : Char) (align : Alignment) (width : Nat) (cs : List Char) : List Char :=
  let missing := width - cs.length
  match align with
  | .left => cs ++ List.replicate missing fill
  | .right => List.replicate missing fill ++ cs
  | .center => List.replicate (missing / 2) fill ++ cs ++ List.replicate (missing - missing / 2) fill

def maxWidth : Nat := Nat.pow 2 40

/-- Writes a text by a format. A zero before the width is the fill character, unless there is one. -/
def writeText (format value : List Char) : Except Error (List Char) := do
  let (fill, align, rest) := takeAlignment format
  let zero := fill.isNone && rest.head? = some '0'
  let fill := fill.getD (if zero then '0' else ' ')
  let (width, rest) ← takeNumber 0 (if zero then rest.tail else rest)
  let (value, rest) ←
    match rest with
    | '.' :: digits =>
      let (precision, rest) ← takeNumber 0 digits
      if rest.length = digits.length then .error .badTemplate else pure (value.take precision, rest)
    | _ => pure (value, rest)
  if rest ≠ [] ∧ rest ≠ ['s'] then .error .badTemplate
  else if width > maxWidth then .error .tooWide
  else return pad fill (align.getD .left) width value

/-- Writes a value by a format; only a text has one. -/
def write (format : List Char) : Referent → Except Error (List Char)
  | .text cs => writeText format cs
  | value => if format.isEmpty then .ok value.shown else .error .badFormat

/-! ## Filling in -/

/-- Fills in a template, where `expand` fills in a format that has fields. -/
def fillWith (expand : List Char → Except Error (List Char)) (values : List (String × String)) :
    (fuel : Nat) → List Char → Except Error (List Char)
  | 0, _ => .ok []
  | _ + 1, [] => .ok []
  | fuel + 1, '\x7b' :: '\x7b' :: rest => do return '\x7b' :: (← fillWith expand values fuel rest)
  | fuel + 1, '\x7d' :: '\x7d' :: rest => do return '\x7d' :: (← fillWith expand values fuel rest)
  | fuel + 1, c :: rest =>
    if c = '\x7d' then .error .badTemplate
    else if c = '\x7b' then do
      let (field, rest) ← readField rest
      let value ← look values field.name
      let value ← convert value field.conversion
      let format ← if field.format.contains '\x7b' then expand field.format else pure field.format
      return (← write format value) ++ (← fillWith expand values fuel rest)
    else do return c :: (← fillWith expand values fuel rest)

/-- Fills in a template; the format of a field in a format has no fields. -/
def fill (values : List (String × String)) (cs : List Char) : Except Error (List Char) :=
  fillWith
    (fun format => fillWith (fun _ => .error .badTemplate) values format.length format)
    values cs.length cs

end ModuleDocs.Template

namespace ModuleDocs

def fillTemplate (values : List (String × String)) (template : String) : Except Error String :=
  (Template.fill values template.toList).map String.ofList

end ModuleDocs
