import ModuleDocs.Markdown.Line
import ModuleDocs.Markdown.Tag
import ModuleDocs.Pattern.Match
import ModuleDocs.Pattern.Reader

/-!
# How blocks start

The marks at the start of a line, after its blanks, by which headings, fences, breaks, items and blocks of
HTML are known.
-/
set_option autoImplicit false

namespace ModuleDocs.Markdown

open ModuleDocs.Text

/-! ## Headings, fences, breaks -/

/-- A heading with its marks: its text. -/
def atxHeading? (cs : List Char) : Option (List Char) :=
  let level := (cs.takeWhile (· == '#')).length
  let rest := cs.drop level
  if level = 0 || level > 6 || !(rest.isEmpty || rest.head?.any isSpace) then none
  else
    let backwards := rest.reverse.dropWhile isSpace
    let unmarked := backwards.dropWhile (· == '#')
    let cut := unmarked.length < backwards.length && unmarked.head?.any isSpace
    some (trim (if cut then unmarked else backwards).reverse)

/-- The start of a fence: its mark and size. -/
def fence? (cs : List Char) : Option (Char × Nat) :=
  match cs with
  | [] => none
  | mark :: _ =>
    let tick := mark == Char.ofNat 0x60
    let size := (cs.takeWhile (· == mark)).length
    if !(tick || mark == '~') || size < 3 || (tick && (cs.drop size).contains mark) then none
    else some (mark, size)

def closesFence (mark : Char) (size : Nat) (cs : List Char) : Bool :=
  let marks := (cs.takeWhile (· == mark)).length
  size ≤ marks && (cs.drop marks).all isSpace

/-- A line across the page: three or more equal marks with blanks among them. -/
def isBreak (cs : List Char) : Bool :=
  match cs with
  | [] => false
  | mark :: _ =>
    ['*', '-', '_'].contains mark && cs.all (fun c => c == mark || isSpace c) && 3 ≤ cs.count mark

def isUnderline (cs : List Char) : Bool :=
  match cs with
  | [] => false
  | mark :: _ => ['=', '-'].contains mark && (cs.dropWhile (· == mark)).all isSpace

/-! ## Items -/

/-- The marker of an item: its last character and its width, and the number of an ordered one. -/
structure Marker where
  mark : Char
  width : Nat
  number : Option Nat := none
deriving Repr, DecidableEq

def marker? (cs : List Char) : Option Marker :=
  let ends := fun (rest : List Char) => rest.isEmpty || rest.head?.any isSpace
  match cs with
  | [] => none
  | c :: rest =>
    if ['*', '-', '+'].contains c then if ends rest then some { mark := c, width := 1 } else none
    else
      let digits := cs.takeWhile isAsciiDigit
      match cs.drop digits.length with
      | mark :: rest =>
        if digits.isEmpty || digits.length > 9 || !(mark == '.' || mark == ')') || !ends rest then none
        else some { mark, width := digits.length + 1, number := some (decimalNumber digits) }
      | [] => none

def Marker.continues (first next : Marker) : Bool :=
  first.mark == next.mark && first.number.isSome == next.number.isSome

/-! ## Blocks of HTML -/

def blockNames : List String :=
  ["address", "article", "aside", "base", "basefont", "blockquote", "body", "caption", "center", "col",
    "colgroup", "dd", "details", "dialog", "dir", "div", "dl", "dt", "fieldset", "figcaption", "figure",
    "footer", "form", "frame", "frameset", "h1", "h2", "h3", "h4", "h5", "h6", "head", "header", "hr",
    "html", "iframe", "legend", "li", "link", "main", "menu", "menuitem", "nav", "noframes", "ol",
    "optgroup", "option", "p", "param", "section", "source", "summary", "table", "tbody", "td", "tfoot",
    "th", "thead", "title", "tr", "track", "ul"]

/-- A kind of HTML that makes a block: how it starts, and what ends it, if not an empty line. -/
structure HtmlKind where
  opening : Option Pattern
  closing : Option Pattern

def htmlKinds : List HtmlKind :=
  let kind := fun (opening closing : String) => HtmlKind.mk (Pattern.read? opening) (Pattern.read? closing)
  let names := String.join (blockNames.intersperse "|")
  [kind "(?i)<(?:script|pre|style|textarea)(?=\\s|>|$)" "(?i)</(?:script|pre|style|textarea)>",
    kind "<!--" "-->", kind "<\\?" "\\?>", kind "<![A-Z]" ">", kind "<!\\[CDATA\\[" "\\]\\]>",
    ⟨Pattern.read? ("(?i)</?(?:" ++ names ++ ")(?=\\s|/?>|$)"), none⟩]

/-- The kind of a block of HTML that a line starts. A tag of any other name starts one only if nothing else
is on the line, and never right after a paragraph. -/
def htmlKind? (interrupts : Bool) (cs : List Char) : Option HtmlKind :=
  if cs.head? ≠ some '<' then none
  else
    match htmlKinds.find? fun kind => kind.opening.any (·.leads cs) with
    | some kind => some kind
    | none =>
      let alone := fun (rest : Option (List Char)) => rest.any fun rest => (trim rest).isEmpty
      if !interrupts && (alone (openTag? cs) || alone (closeTag? cs)) then some ⟨none, none⟩ else none

def HtmlKind.endsWith (kind : HtmlKind) (cs : List Char) : Bool :=
  match kind.closing with
  | some pattern => (pattern.searchFrom? false (Pattern.Place.start cs) cs).isSome
  | none => cs.isEmpty

end ModuleDocs.Markdown
