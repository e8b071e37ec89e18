import ModuleDocs.Text.Lines
import ModuleDocs.Text.Search

/-!
# Lines of a document

A line as the block around it sees it. Blanks at its start are measured in columns, where a tab reaches to
the next multiple of four. Of a line in a quote only what follows the mark is kept; the marker of an item
stays on its line and counts as blanks.
-/
set_option autoImplicit false

namespace ModuleDocs.Markdown

open ModuleDocs.Text

def isSpace (c : Char) : Bool := c == ' ' || c == '\t'

structure Line where
  text : List Char
  /-- The characters at the start of the text that count as blanks. -/
  shift : Nat
  /-- The column at which the content starts. It is negative on a line that only goes on with a paragraph. -/
  column : Int
  base : Nat := 0
  /-- What ends the line: nothing ends the last one. -/
  ending : List Char := ['\n']
deriving Repr, DecidableEq

/-- Counts the blanks at the start of a text, and gives the column they reach from another one, where `base`
columns stand before the text. -/
def spread (base : Nat) : (column : Nat) → List Char → Nat × Nat
  | column, ' ' :: rest =>
    let (count, column) := spread base (column + 1) rest
    (count + 1, column)
  | column, '\t' :: rest =>
    let (count, column) := spread base (column + (4 - (column + base) % 4)) rest
    (count + 1, column)
  | column, _ => (0, column)

namespace Line

def ofText (text ending : List Char) : Line :=
  let (shift, column) := spread 0 0 text
  { text, shift, column, ending }

def content (line : Line) : List Char := line.text.drop line.shift

def isEmpty (line : Line) : Bool := line.text.length ≤ line.shift

/-- Drops blanks, or what counts as such, up to a column; gives the column that is reached. -/
def dropColumns (limit base : Nat) : (shift column : Nat) → List Char → Nat × List Char
  | _, column, [] => (column, [])
  | shift, column, c :: rest =>
    if limit ≤ column then (column, c :: rest)
    else if c = '\t' then
      dropColumns limit base (shift - 1) (column + (4 - (column + base) % 4)) rest
    else if c = ' ' || shift ≠ 0 then dropColumns limit base (shift - 1) (column + 1) rest
    else (column, c :: rest)

/-- The text without its first columns. Of a tab that reaches further, the rest is kept as blanks. -/
def cut (line : Line) (limit : Nat) : List Char :=
  let (column, rest) := dropColumns limit line.base line.shift 0 line.text
  List.replicate (column - limit) ' ' ++ rest

/-- What follows the mark of a quote and a blank after it, for a line whose content starts with the mark. Of a
tab after the mark one column goes. -/
def quoted (line : Line) : Line :=
  let rest := line.content.tail
  let start := line.column.toNat + 1
  let wide := rest.head? == some '\t' && (line.base + start) % 4 ≠ 3
  let spaced := rest.head?.any isSpace
  let text := if spaced && !wide then rest.tail else rest
  let initial := if spaced && !wide then start + 1 else start
  let (shift, column) := spread (line.base + (if wide then 1 else 0)) initial text
  { line with text, shift, column := column - initial, base := start + (if spaced then 1 else 0) }

end Line

/-- The lines of a document. Blanks after its last line end are none. -/
def documentLines (text : List Char) : Array Line :=
  let lines := splitOn ['\n'] text
  let last := lines.getLastD []
  let whole := lines.dropLast.map fun line => Line.ofText line ['\n']
  (if last.all isSpace then whole else whole ++ [Line.ofText last []]).toArray

/-! ## Ranges of lines -/

def isEmptyAt (lines : Array Line) (place : Nat) : Bool := (lines[place]?.map Line.isEmpty).getD true

def skipEmpty (lines : Array Line) (bound : Nat) : (steps : Nat) → Nat → Nat
  | 0, place => place
  | steps + 1, place =>
    if place < bound && isEmptyAt lines place then skipEmpty lines bound steps (place + 1) else place

/-- The lines from one place up to another, each with its end, without their first columns. -/
def textBetween (lines : Array Line) (start stop limit : Nat) : List Char :=
  (lines.extract start stop).toList.flatMap fun line => line.cut limit ++ line.ending

def innerText (lines : Array Line) (start stop limit : Nat) : List Char :=
  joinLines ((lines.extract start stop).toList.map (·.cut limit))

end ModuleDocs.Markdown
