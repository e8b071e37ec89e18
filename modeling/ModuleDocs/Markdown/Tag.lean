import ModuleDocs.Text.Blank
import ModuleDocs.Text.Search
import ModuleDocs.Text.Word

/-!
# Tags

The constructs in angle brackets that Markdown takes for HTML, and its links in angle brackets. Each
function takes the text from the opening bracket on and gives what follows the construct.
-/
set_option autoImplicit false

namespace ModuleDocs.Markdown

open ModuleDocs.Text

/-! ## Tags -/

def afterTagName? : List Char → Option (List Char)
  | c :: rest =>
    if isAsciiLetter c then some (rest.dropWhile fun c => isAsciiLetter c || isAsciiDigit c || c == '-')
    else none
  | [] => none

def isAttributeStart (c : Char) : Bool := isAsciiLetter c || c == '_' || c == ':'

def isAttributeRest (c : Char) : Bool := isAttributeStart c || isAsciiDigit c || c == '.' || c == '-'

def isUnquoted (c : Char) : Bool :=
  c.toNat > 0x20 && !(['"', '\'', '=', '<', '>', Char.ofNat 0x60].contains c)

def afterAttributeValue? : List Char → Option (List Char)
  | [] => none
  | c :: rest =>
    if c = '"' || c = '\'' then
      match rest.dropWhile (· != c) with
      | _ :: rest => some rest
      | [] => none
    else if isUnquoted c then some (rest.dropWhile isUnquoted)
    else none

/-- What follows an equals sign and a value, if they stand here. -/
def afterAssigned (cs : List Char) : List Char :=
  match trimStart cs with
  | '=' :: rest => (afterAttributeValue? (trimStart rest)).getD cs
  | _ => cs

def afterAttributes : (fuel : Nat) → List Char → List Char
  | 0, cs => cs
  | fuel + 1, cs =>
    match trimStart cs with
    | c :: rest =>
      if (cs.head?.any isBlank) && isAttributeStart c then
        afterAttributes fuel (afterAssigned (rest.dropWhile isAttributeRest))
      else cs
    | [] => cs

def openTag? (cs : List Char) : Option (List Char) := do
  let rest ← dropPrefix? ['<'] cs
  let rest ← afterTagName? rest
  let rest := trimStart (afterAttributes rest.length rest)
  match rest with
  | '/' :: '>' :: rest => some rest
  | '>' :: rest => some rest
  | _ => none

def closeTag? (cs : List Char) : Option (List Char) := do
  let rest ← dropPrefix? ['<', '/'] cs
  let rest ← afterTagName? rest
  dropPrefix? ['>'] (trimStart rest)

/-! ## Other constructs -/

def afterFirst? (piece cs : List Char) : Option (List Char) :=
  (findFirst? piece cs).map fun n => cs.drop (n + piece.length)

/-- A comment: its text holds no two dashes in a row, does not start with a bracket after at most one dash,
and does not end with a dash. -/
def comment? (cs : List Char) : Option (List Char) := do
  let rest ← dropPrefix? ['<', '!', '-', '-'] cs
  match dropPrefix? ['-', '-', '>'] rest with
  | some rest => some rest
  | none =>
    if ['>'].isPrefixOf rest || ['-', '>'].isPrefixOf rest then none
    else
      let n ← findFirst? ['-', '-'] rest
      if n = 0 then none else dropPrefix? ['-', '-', '>'] (rest.drop n)

def instruction? (cs : List Char) : Option (List Char) := do
  afterFirst? ['?', '>'] (← dropPrefix? ['<', '?'] cs)

def isAsciiUpper (c : Char) : Bool := 'A' ≤ c && c ≤ 'Z'

def declaration? (cs : List Char) : Option (List Char) := do
  let rest ← dropPrefix? ['<', '!'] cs
  let after := rest.dropWhile isAsciiUpper
  if after.length = rest.length || !(after.head?.any isBlank) then none
  else afterFirst? ['>'] after

def characterData? (cs : List Char) : Option (List Char) := do
  afterFirst? "]]>".toList (← dropPrefix? "<![CDATA[".toList cs)

def inlineTag? (cs : List Char) : Option (List Char) :=
  if cs.length < 3 then none
  else
    [openTag?, closeTag?, comment?, instruction?, declaration?, characterData?].findSome? fun f => f cs

/-! ## Links in angle brackets -/

def isRefusedLink (url : List Char) : Bool :=
  let url := (trim url).map Char.toLower
  let starts := fun (s : String) => s.toList.isPrefixOf url
  (["vbscript:", "javascript:", "file:", "data:"].any starts) &&
    !(["data:image/gif;", "data:image/png;", "data:image/jpeg;", "data:image/webp;"].any starts)

def isScheme (cs : List Char) : Bool :=
  (cs.head?.any isAsciiLetter) && 2 ≤ cs.length && cs.length ≤ 32 &&
    cs.all fun c => isAsciiLetter c || isAsciiDigit c || ['+', '.', '-'].contains c

def isAbsoluteLink (url : List Char) : Bool :=
  let scheme := url.takeWhile (· != ':')
  isScheme scheme && scheme.length < url.length && url.all fun c => c.toNat > 0x20 && c != '<' && c != '>'

def isMailName (c : Char) : Bool :=
  isAsciiLetter c || isAsciiDigit c || c == Char.ofNat 0x60 || ".!#$%&'*+/=?^_\x7b|\x7d~-".toList.contains c

def isMailLabel (cs : List Char) : Bool :=
  let ends := fun (c : Char) => isAsciiLetter c || isAsciiDigit c
  (cs.head?.any ends) && (cs.getLast?.any ends) && cs.length ≤ 63 && cs.all fun c => ends c || c == '-'

def isMailAddress (cs : List Char) : Bool :=
  let name := cs.takeWhile isMailName
  match cs.drop name.length with
  | '@' :: domain => !name.isEmpty && (splitOn ['.'] domain).all isMailLabel
  | _ => false

/-- A link in angle brackets: its address, and what follows. A line end may stand before the closing one. -/
def bracketedLink? (cs : List Char) : Option (List Char × List Char) := do
  let rest ← dropPrefix? ['<'] cs
  let url := rest.takeWhile fun c => c != '<' && c != '>'
  let rest ← dropPrefix? ['>'] (rest.drop url.length)
  let url := if url.getLast? = some '\n' then url.dropLast else url
  if (isAbsoluteLink url && !isRefusedLink url) || isMailAddress url then some (url, rest) else none

end ModuleDocs.Markdown
