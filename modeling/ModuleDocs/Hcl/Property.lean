import ModuleDocs.Hcl.Assignment

/-!
# Values of properties

The text of a value in a block, found by a scan from its assignment on. The scan goes to the end of the
line, or, where brackets are open at the end of the line, to the bracket that closes the last of them.
Brackets count outside quotes; a here document is gone over up to the line with its name.
-/
set_option autoImplicit false

namespace ModuleDocs.Hcl

open ModuleDocs.Text

/-! ## Scanning -/

def opening? : Char → Option Char
  | '\x7d' => some '\x7b'
  | ']' => some '['
  | ')' => some '('
  | _ => none

def isOpening (c : Char) : Bool := c == '\x7b' || c == '[' || c == '('

def isClosing (c : Char) : Bool := (opening? c).isSome

/-- The state of a scan: open brackets (innermost first), whether a line has ended, whether the place is
inside quotes, the name of an open here document, whether the last character was an escaping backslash,
the last character of the text, and how many characters are still to be passed over. -/
structure Scan where
  brackets : List Char := []
  lineEnded : Bool := false
  quoted : Bool := false
  heredoc : Option (List Char) := none
  escaped : Bool := false
  last : Char := '\n'
  skip : Nat := 0
deriving Repr, DecidableEq

/-- The opening of a here document: its length and the name. -/
def heredocStart? (cs : List Char) : Option (Nat × List Char) :=
  match cs with
  | '<' :: '<' :: rest =>
    let dash := rest.head? == some '-'
    let name := (if dash then rest.tail else rest).takeWhile isWord
    if name.isEmpty then none else some (2 + (if dash then 1 else 0) + name.length, name)
  | _ => none

/-- Whether the line with the name of the open here document starts here. -/
def Scan.atHeredocEnd (s : Scan) (cs : List Char) : Option (List Char) :=
  match s.heredoc with
  | none => none
  | some name =>
    if !s.quoted && s.last == '\n' && (name ++ ['\n']).isPrefixOf cs then some name else none

/-- What a character does to a scan: the text it adds, the state after it, and whether the scan ends. -/
structure Step where
  text : List Char
  state : Scan
  done : Bool := false
deriving Repr, DecidableEq

/-- The step of a scan at the first of some characters. A closing bracket without any open bracket, or
with another kind of bracket open, is an error. -/
def Scan.step (property : String) (s : Scan) (c : Char) (rest : List Char) : Except Error Step :=
  let next := { s with last := c, escaped := c == '\\' && !s.escaped }
  if c == '"' && s.heredoc.isNone && !s.escaped then
    .ok { text := [c], state := { next with quoted := !s.quoted } }
  else match (if c == '<' && !s.quoted && s.heredoc.isNone then heredocStart? (c :: rest) else none) with
  | some (length, name) =>
    -- The opening is written out anew behind the character read, and always with a dash.
    .ok { text := c :: '<' :: '<' :: '-' :: name, state := { next with heredoc := some name, skip := length } }
  | none =>
    match s.atHeredocEnd (c :: rest) with
    | some name =>
      .ok { text := [c], state := { next with heredoc := none, skip := name.length + 1 }, done := s.lineEnded }
    | none =>
      if isOpening c && !s.quoted && s.heredoc.isNone then
        .ok { text := [c], state := { next with brackets := c :: s.brackets } }
      -- In a here document an opening bracket is text, but a closing one still closes.
      else if isClosing c && !s.quoted then
        match s.brackets with
        | [] => .error .strayBracket
        | open' :: outer =>
          if opening? c = some open' then
            .ok { text := [c], state := { next with brackets := outer }, done := s.lineEnded && outer.isEmpty }
          else .error (.unmatchedBrackets property)
      else if c == '\n' then
        .ok {
          text := [c]
          state := { next with lineEnded := true }
          done := !s.quoted && s.heredoc.isNone && s.brackets.isEmpty }
      else .ok { text := [c], state := next }

/-- Scans a text: what has been read, and the brackets that are still open. -/
def scanValue (property : String) (s : Scan) : List Char → Except Error (List Char × List Char)
  | [] => .ok ([], s.brackets)
  | c :: rest =>
    match s.skip with
    | skip + 1 => scanValue property { s with skip := skip, last := c } rest
    | 0 =>
      match s.step property c rest with
      | .error e => .error e
      | .ok step =>
        if step.done then .ok (step.text, step.state.brackets)
        else match scanValue property step.state rest with
          | .error e => .error e
          | .ok (text, brackets) => .ok (step.text ++ text, brackets)

/-! ## Values -/

def dropAssignment (name : String) (text : List Char) : Except Error (List Char) :=
  if isPlainName name.toList then .ok (((afterAssignment? name.toList text).map trimStart).getD text)
  else do
    let pattern ← Pattern.read (assignmentSource name ++ "\\s*")
    match pattern.searchFrom? false (Pattern.Place.start text) text with
    | none => return text
    | some m => return text.take m.start ++ m.stop.after

/-- The text of the value of a property in a block. -/
def findProperty (text property : String) : Except Error String := do
  let some a := leastIndented? (← assignments property text) | .error .propertyMissing
  let (found, brackets) ← scanValue property {} (text.toList.drop a.offset)
  if !brackets.isEmpty then .error (.unmatchedBrackets property)
  return String.ofList (trim (← dropAssignment property found))

end ModuleDocs.Hcl
