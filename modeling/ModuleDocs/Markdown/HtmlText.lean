import ModuleDocs.Error
import ModuleDocs.Markdown.Entity
import ModuleDocs.Markdown.Tag
import ModuleDocs.Pattern.Match
import ModuleDocs.Pattern.Reader

/-!
# The text of HTML

What is left of HTML when its tags, comments and declarations are dropped and its character references
resolved. Nothing is left from a construct on that does not end, nor of a text at the end in which a
character reference may still be going on. A marked section must have a name that is known, and a
character reference, also one in an attribute, not too many digits.
-/
set_option autoImplicit false

namespace ModuleDocs.Markdown

open ModuleDocs.Text

def startTagPattern : Option Pattern := Pattern.read? <| String.join
  ["<[a-zA-Z][^\\t\\n\\r\\f />\\x00]*(?:[\\s/]*(?:(?<=['\"\\s/])[^\\s/>][^\\s/=>]*",
    "(?:\\s*=+\\s*(?:'[^']*'|\"[^\"]*\"|(?!['\"])[^>\\s]*)\\s*)?(?:\\s|/(?!>))*)*)?\\s*"]

def tagNamePattern : Option Pattern := Pattern.read? "<[a-zA-Z][^\\t\\n\\r\\f />\\x00]*(?:\\s|/(?!>))*"

/-- An attribute, with its value captured. -/
def attributePattern : Option Pattern := Pattern.read? <| String.join
  ["(?<=['\"\\s/])[^\\s/>][^\\s/=>]*(?:\\s*=+\\s*('[^']*'|\"[^\"]*\"|(?!['\"])[^>\\s]*))?",
    "(?:\\s|/(?!>))*"]

/-- What a construct in angle brackets gives: text, and what follows it. -/
structure Resolved where
  text : List Char := []
  rest : List Char
  opened : String := ""

/-- The values of the attributes from a place on, and the place after them. -/
def attributesFrom (pattern : Pattern) : (fuel : Nat) → Pattern.Place → List (List Char) × Pattern.Place
  | 0, p => ([], p)
  | fuel + 1, p =>
    match pattern.matchAt? false p with
    | none => ([], p)
    | some m =>
      let (values, last) := attributesFrom pattern fuel m.stop
      ((m.capture? 1).toList ++ values, last)

/-- An opening tag. Where it is malformed it counts as text. -/
def startTag? (cs : List Char) : Except Error (Option Resolved) := do
  let some tag := startTagPattern.bind (·.matchAt? false (Pattern.Place.start cs)) | return none
  let some named := tagNamePattern.bind (·.matchAt? false (Pattern.Place.start cs)) | return none
  let some pattern := attributePattern | return none
  let (values, closing) := attributesFrom pattern cs.length named.stop
  let name := cs.tail.takeWhile fun c => !(['\t', '\n', '\r', Char.ofNat 12, ' ', '/', '>'].contains c)
  let found : Option Resolved :=
    match tag.stop.after with
    | '>' :: rest =>
      let opens := closing.after.head? == some '>'
      some { rest, opened := if opens then String.ofList (name.map Char.toLower) else "" }
    | '/' :: '>' :: rest => some { rest }
    | [] => none
    | c :: rest => if c = '/' || c = '=' || isAsciiLetter c then none else some { text := tag.text, rest := c :: rest }
  -- The values of a tag that is complete are resolved, though nothing of them is shown.
  if found.isSome then
    let _ ← values.mapM unescape
  return found

/-- A closing tag, whatever stands in it. -/
def endTag? (cs : List Char) : Option Resolved := (afterFirst? ['>'] (cs.drop 2)).map fun rest => { rest }

/-- What follows the first of two dashes that only blanks part from a bracket. -/
def afterComment? : List Char → Option (List Char)
  | [] => none
  | c :: rest =>
    match c, rest with
    | '-', '-' :: more =>
      match trimStart more with
      | '>' :: after => some after
      | _ => afterComment? rest
    | _, _ => afterComment? rest

def afterPattern? (pattern : String) (cs : List Char) : Option (List Char) := do
  some (← (← Pattern.read? pattern).searchFrom? false (Pattern.Place.start cs) cs).stop.after

/-- What follows a marked section, which starts with its name. A section that stops with its name, or before
it, is not complete. -/
def afterSection? (cs : List Char) : Except Error (Option (List Char)) :=
  let isRest := fun (c : Char) => isAsciiLetter c || isAsciiDigit c || ['-', '_', '.'].contains c
  let name := cs.takeWhile isRest
  if cs.isEmpty then .ok none
  else if !(name.head?.any isAsciiLetter) then .error .unknownSection
  else if (trimStart (cs.drop name.length)).isEmpty then .ok none
  else
    let name := String.ofList (name.map Char.toLower)
    if ["if", "else", "endif"].contains name then .ok (afterPattern? "\\]\\s*>" cs)
    else if ["temp", "cdata", "ignore", "include", "rcdata"].contains name then
      .ok (afterPattern? "\\]\\s*\\]\\s*>" cs)
    else .error .unknownSection

/-- The construct at an opening bracket, if it is complete. -/
def resolve? (cs : List Char) : Except Error (Option Resolved) := do
  let starts := fun (s : String) => s.toList.isPrefixOf cs
  let ending := fun (rest : Option (List Char)) => rest.map fun rest => Resolved.mk [] rest ""
  if cs.tail.head?.any isAsciiLetter then startTag? cs
  else if starts "</" then return endTag? cs
  else if starts "<!--" then return ending (afterComment? (cs.drop 4))
  else if starts "<![" then return ending (← afterSection? (cs.drop 3))
  else if starts "<?" || starts "<!" then return ending (afterFirst? ['>'] (cs.drop 2))
  else if cs.tail.isEmpty then return none
  else return some { text := ['<'], rest := cs.tail }

/-- Whether a text at the end may stop within a character reference: near its end there is an ampersand
without a blank or a semicolon after it. -/
def endsInReference (cs : List Char) : Bool :=
  let tail := cs.reverse.takeWhile (· != '&')
  tail.length < min cs.length 34 && !(tail.any fun c => isBlank c || c == ';')

/-- What follows the closing tag of a name, and the text before it. -/
def untilEndTag? (name : String) : List Char → Option (List Char × List Char)
  | [] => none
  | c :: rest =>
    let close :=
      if c = '<' then do
        let after ← dropPrefix? ['/'] rest
        let word := (trimStart after).take name.length
        if String.ofList (word.map Char.toLower) = name then
          dropPrefix? ['>'] (trimStart ((trimStart after).drop name.length))
        else none
      else none
    match close with
    | some after => some ([], after)
    | none => (untilEndTag? name rest).map fun p => (c :: p.1, p.2)

def htmlTextFrom : (fuel : Nat) → List Char → Except Error (List Char)
  | 0, _ => .ok []
  | _ + 1, [] => .ok []
  | fuel + 1, '<' :: more => do
    match ← resolve? ('<' :: more) with
    | none => return []
    | some found =>
      if found.opened = "script" || found.opened = "style" then
        match untilEndTag? found.opened found.rest with
        | some (text, rest) => return text ++ (← htmlTextFrom fuel rest)
        | none => return []
      else return found.text ++ (← htmlTextFrom fuel found.rest)
  | fuel + 1, cs => do
    let text := cs.takeWhile (· != '<')
    if text.length = cs.length && endsInReference cs then return []
    else return (← unescape text) ++ (← htmlTextFrom fuel (cs.drop text.length))

def htmlText (cs : List Char) : Except Error (List Char) := htmlTextFrom cs.length cs

end ModuleDocs.Markdown
