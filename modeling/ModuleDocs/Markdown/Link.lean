import ModuleDocs.Markdown.Entity
import ModuleDocs.Markdown.Tag
import ModuleDocs.Text.Case
import ModuleDocs.Text.Punctuation

/-!
# Links

The parts of a link: its destination, its title, and the labels by which links refer to definitions
elsewhere in the document. Only whether a link stands at a place matters here, never where it leads.
-/
set_option autoImplicit false

namespace ModuleDocs.Markdown

open ModuleDocs.Text

/-- The blanks that Markdown itself knows within a line, and the line end. -/
def isSpacing (c : Char) : Bool := c == ' ' || c == '\t' || c == '\n'

/-! ## Destinations -/

/-- A destination in angle brackets, after the opening one. -/
def angleDestination? : List Char → Option (List Char × List Char)
  | '>' :: rest => some ([], rest)
  | '<' :: _ => none
  | '\n' :: _ => none
  | '\\' :: c :: rest => (angleDestination? rest).map fun p => ('\\' :: c :: p.1, p.2)
  | c :: rest => (angleDestination? rest).map fun p => (c :: p.1, p.2)
  | [] => none

/-- A destination without brackets, which may hold balanced parentheses. -/
def bareDestination? (depth : Nat) : List Char → Option (List Char × List Char)
  | [] => if depth = 0 then some ([], []) else none
  | '\\' :: c :: rest =>
    if c = ' ' then if depth = 0 then some ([], '\\' :: c :: rest) else none
    else (bareDestination? depth rest).map fun p => ('\\' :: c :: p.1, p.2)
  | '(' :: rest =>
    if depth ≥ 32 then none else (bareDestination? (depth + 1) rest).map fun p => ('(' :: p.1, p.2)
  | ')' :: rest =>
    match depth with
    | 0 => some ([], ')' :: rest)
    | depth + 1 => (bareDestination? depth rest).map fun p => (')' :: p.1, p.2)
  | c :: rest =>
    if c.toNat ≤ 0x20 || c.toNat = 0x7f then if depth = 0 then some ([], c :: rest) else none
    else (bareDestination? depth rest).map fun p => (c :: p.1, p.2)

/-- A destination, and what follows it. -/
def destination? (cs : List Char) : Option (List Char × List Char) :=
  match cs with
  | '<' :: rest => angleDestination? rest
  | _ => do
    let (url, rest) ← bareDestination? 0 cs
    if url.isEmpty then none else some (url, rest)

/-- A reference to a character by its name or number, after the ampersand, and what follows it. -/
def destinationReference? (cs : List Char) : Option (List Char × List Char) :=
  match cs with
  | '#' :: c :: more =>
    let hex := c = 'x' || c = 'X'
    let digits := if hex then more.takeWhile fun c => (hexValue? c).isSome else (c :: more).takeWhile isAsciiDigit
    let rest := (if hex then more else c :: more).drop digits.length
    let n := if hex then hexNumber digits else decimalNumber digits
    if digits.isEmpty || digits.length > 8 || rest.head? ≠ some ';' ||
      markdownCode n = replacementCharacter then none
    else some ([markdownCode n], rest.tail)
  | _ => markdownReference? cs

/-- A destination with its escapes and references to characters resolved. -/
def resolvedDestination : (fuel : Nat) → List Char → List Char
  | 0, cs => cs
  | _ + 1, [] => []
  | fuel + 1, '\\' :: c :: rest =>
    if isAsciiPunctuation c then c :: resolvedDestination fuel rest
    else '\\' :: resolvedDestination fuel (c :: rest)
  | fuel + 1, c :: rest =>
    match (if c = '&' then destinationReference? rest else none) with
    | some (text, rest) => text ++ resolvedDestination fuel rest
    | none => c :: resolvedDestination fuel rest

def isRefusedDestination (url : List Char) : Bool := isRefusedLink (resolvedDestination url.length url)

/-! ## Titles -/

/-- The text of a title after its opening mark, and what follows it. -/
def titleText? (stop : Char) : List Char → Option (List Char × List Char)
  | '\\' :: c :: rest => (titleText? stop rest).map fun p => ('\\' :: c :: p.1, p.2)
  | c :: rest =>
    if c = stop then some ([], rest)
    else if c = '(' && stop = ')' then none
    else (titleText? stop rest).map fun p => (c :: p.1, p.2)
  | [] => none

/-- A title, and what follows it. -/
def title? : List Char → Option (List Char × List Char)
  | '"' :: rest => titleText? '"' rest
  | '\'' :: rest => titleText? '\'' rest
  | '(' :: rest => titleText? ')' rest
  | _ => none

/-- What follows the destination and the title of a link, after the opening parenthesis. -/
def afterTarget (cs : List Char) : List Char :=
  let start := cs.dropWhile isSpacing
  match destination? start with
  | none => start
  | some (url, after) =>
    let after := if isRefusedDestination url then start else after
    let next := after.dropWhile isSpacing
    match (if next.length < after.length then title? next else none) with
    | some (_, rest) => rest.dropWhile isSpacing
    | none => next

/-! ## Labels -/

/-- A label after its opening bracket, and what follows the closing one. -/
def label? : List Char → Option (List Char × List Char)
  | ']' :: rest => some ([], rest)
  | '[' :: _ => none
  | '\\' :: c :: rest => (label? rest).map fun p => ('\\' :: c :: p.1, p.2)
  | c :: rest => (label? rest).map fun p => (c :: p.1, p.2)
  | [] => none

def joinBlanks : List Char → List Char
  | c :: d :: rest =>
    if isBlank c then if isBlank d then joinBlanks (d :: rest) else ' ' :: joinBlanks (d :: rest)
    else c :: joinBlanks (d :: rest)
  | [c] => if isBlank c then [' '] else [c]
  | [] => []

/-- The form of a label that is compared: neither case nor the amount of blanks matters. -/
def normalLabel (cs : List Char) : List Nat := (joinBlanks (trim cs)).flatMap fun c => caselessCodes c.toNat

/-! ## Definitions -/

/-- Whether a line may start a definition: the first closing bracket on it that has no backslash right before
it stands before a colon. -/
def mayDefine : (last : Char) → List Char → Bool
  | _, [] => true
  | last, c :: rest => if c = ']' && last ≠ '\\' then rest.head? == some ':' else mayDefine c rest

def endsLine (cs : List Char) : Bool :=
  match cs.dropWhile fun c => c == ' ' || c == '\t' with
  | [] => true
  | c :: _ => c == '\n'

/-- A definition of a link at the start of a text: its label, and the number of line ends in it. Those in the
destination do not count. A title that something else follows on its line is none, but an empty one makes the
definition fail. -/
def definition? (cs : List Char) : Option (List Nat × Nat) := do
  let rest ← dropPrefix? ['['] cs
  let (label, rest) ← label? rest
  let rest ← dropPrefix? [':'] rest
  let start := rest.dropWhile isSpacing
  let (url, after) ← destination? start
  let key := normalLabel label
  let ends := fun (text : List Char) => text.count '\n'
  let lines := ends label + ends (rest.take (rest.length - start.length))
  if key.isEmpty || isRefusedDestination url then none
  else
    let next := after.dropWhile isSpacing
    let bare := if endsLine after then some (key, lines) else none
    match (if next.length < after.length then title? next else none) with
    | none => bare
    | some (title, rest) =>
      if endsLine rest then some (key, lines + ends (after.take (after.length - next.length)) + ends title)
      else if title.isEmpty then none
      else bare

end ModuleDocs.Markdown
