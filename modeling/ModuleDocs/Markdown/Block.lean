import ModuleDocs.Markdown.Link
import ModuleDocs.Markdown.Start

/-!
# The blocks of a document

A document is read block by block, from the top. Each block is tried in a fixed order at the first line that
has not been read: code, a fence, a quote, a break, a list, a definition, HTML, a heading with its marks, a
heading with an underline, and a paragraph. Quotes and the items of lists are read in the same way, on lines
from which their marks are taken.
-/
set_option autoImplicit false

namespace ModuleDocs.Markdown

open ModuleDocs.Text

/-! ## Blocks -/

inductive Block where
  | paragraph (text : List Char)
  | heading (text : List Char)
  | break
  | code (text : List Char)
  | html (text : List Char)
  | quote (blocks : List Block)
  /-- A list. The paragraphs of a tight one are not set apart. -/
  | list (tight : Bool) (items : List (List Block))

/-- The most containers that may stand one in the other; a list and its item are two. -/
def maxNesting : Nat := 20

structure Scope where
  level : Nat := 0
  /-- The column from which the content of the block around is read. -/
  indent : Nat := 0
  /-- The same column for the list around the innermost item. -/
  listIndent : Option Nat := none
  bound : Nat

structure Reading where
  /-- The blocks, from the last to the first. -/
  blocks : List Block := []
  labels : List (List Nat) := []
  line : Nat
  tight : Bool := true

/-- A block that has been found, unless it is a definition, and the line after it. -/
structure Found where
  block : Option Block
  labels : List (List Nat) := []
  next : Nat

/-! ## Ends of paragraphs -/

/-- What a line may interrupt. -/
inductive Interrupted where
  | paragraph
  | definition
  | quote
  | list
deriving Repr, DecidableEq

def Scope.isCode (scope : Scope) (line : Line) : Bool := line.column - scope.indent ≥ 4

/-- An item far to the right of its list, but not in the item before it, goes on with a paragraph. -/
def Scope.isFarItem (scope : Scope) (line : Line) : Bool :=
  (scope.listIndent.any fun (n : Nat) => line.column - n ≥ 4) && line.column < scope.indent

def Scope.marker? (scope : Scope) (line : Line) : Option Marker :=
  if scope.isCode line || scope.isFarItem line then none else Markdown.marker? line.content

/-- Whether an item may interrupt. A paragraph is only interrupted by an item that is not empty and has, if
any, the number one. -/
def Scope.itemInterrupts (scope : Scope) (what : Interrupted) (line : Line) : Bool :=
  match scope.marker? line with
  | none => false
  | some marker =>
    !(what = .paragraph && line.column ≥ scope.indent) ||
      (marker.number.getD 1 = 1 && !((line.content.drop marker.width).all isSpace))

/-- Whether another block starts at a line and interrupts what is being read. -/
def Scope.interrupts (scope : Scope) (what : Interrupted) (line : Line) : Bool :=
  let cs := line.content
  !scope.isCode line &&
    ((fence? cs).isSome || cs.head? == some '>' || isBreak cs ||
      (what != .list &&
        (scope.itemInterrupts what line || (htmlKind? true cs).isSome || (atxHeading? cs).isSome)))

def Scope.continues (scope : Scope) (line : Line) : Bool :=
  line.column - scope.indent > 3 || line.column < 0

def paragraphEnd (scope : Scope) (what : Interrupted) (lines : Array Line) : (steps : Nat) → Nat → Nat
  | 0, place => place
  | steps + 1, place =>
    match lines[place]? with
    | none => place
    | some line =>
      if scope.bound ≤ place || line.isEmpty then place
      else if scope.continues line || !scope.interrupts what line then
        paragraphEnd scope what lines steps (place + 1)
      else place

/-- The line with the underline of a heading, which ends a paragraph before it. -/
def underlineAt? (scope : Scope) (lines : Array Line) (stop : Nat) : (steps : Nat) → Nat → Option Nat
  | 0, _ => none
  | steps + 1, place =>
    match lines[place]? with
    | none => none
    | some line =>
      if stop ≤ place || line.isEmpty then none
      else if line.column - scope.indent > 3 then underlineAt? scope lines stop steps (place + 1)
      else if line.column ≥ scope.indent && isUnderline line.content then some place
      else if scope.continues line || !scope.interrupts .paragraph line then
        underlineAt? scope lines stop steps (place + 1)
      else none

/-! ## Blocks without blocks in them -/

def codeEnd (scope : Scope) (lines : Array Line) (stop : Nat) : (steps : Nat) → (last place : Nat) → Nat
  | 0, last, _ => last
  | steps + 1, last, place =>
    match lines[place]? with
    | none => last
    | some line =>
      if stop ≤ place then last
      else if line.isEmpty then codeEnd scope lines stop steps last (place + 1)
      else if scope.isCode line then codeEnd scope lines stop steps (place + 1) (place + 1)
      else last

/-- The line before which the content of a fence ends, and whether a closing fence stands there. -/
def fenceEnd (scope : Scope) (lines : Array Line) (stop : Nat) (mark : Char) (size : Nat) :
    (steps : Nat) → Nat → Nat × Bool
  | 0, place => (place, false)
  | steps + 1, place =>
    match lines[place]? with
    | none => (place, false)
    | some line =>
      if stop ≤ place || (!line.isEmpty && line.column < scope.indent) then (place, false)
      else if !scope.isCode line && closesFence mark size line.content then (place, true)
      else fenceEnd scope lines stop mark size steps (place + 1)

def htmlEnd (scope : Scope) (lines : Array Line) (stop : Nat) (kind : HtmlKind) : (steps : Nat) → Nat → Nat
  | 0, place => place
  | steps + 1, place =>
    match lines[place]? with
    | none => place
    | some line =>
      if stop ≤ place || line.column < scope.indent then place
      else if kind.endsWith line.content then if line.isEmpty then place else place + 1
      else htmlEnd scope lines stop kind steps (place + 1)

/-! ## Quotes and lists -/

/-- How the lines of a quote, or of an item, are read. -/
abbrev Inner := Scope → Array Line → (start stop : Nat) → Reading

/-- Takes the marks of a quote from its lines: the lines, where the quote ends, and whether another block ends
it. A line without the mark may go on with a paragraph, unless an empty one stands before it. -/
def quoteLines (scope : Scope) (stop : Nat) :
    (steps : Nat) → (emptyBefore : Bool) → Array Line → Nat → Array Line × Nat × Bool
  | 0, _, lines, place => (lines, place, false)
  | steps + 1, emptyBefore, lines, place =>
    match lines[place]? with
    | none => (lines, place, false)
    | some line =>
      if stop ≤ place || line.isEmpty then (lines, place, false)
      else if line.column ≥ scope.indent && line.content.head? == some '>' then
        quoteLines scope stop steps line.quoted.isEmpty (lines.setIfInBounds place line.quoted) (place + 1)
      else if emptyBefore then (lines, place, false)
      else if scope.interrupts .quote line then (lines, place, true)
      else
        quoteLines scope stop steps false (lines.setIfInBounds place { line with column := -1 }) (place + 1)

def readQuote (inner : Inner) (scope : Scope) (lines : Array Line) (start stop : Nat) (line : Line) : Found :=
  let first := line.quoted
  let (inside, last, ended) :=
    quoteLines scope stop lines.size first.isEmpty (lines.setIfInBounds start first) (start + 1)
  let within :=
    { scope with level := scope.level + 1, indent := 0, bound := if ended then last else scope.bound }
  let r := inner within inside start last
  { block := some (.quote r.blocks.reverse), labels := r.labels, next := r.line }

/-- The items of a list that have been read. -/
structure Items where
  /-- The blocks of each item, from the last item to the first. -/
  items : List (List Block) := []
  labels : List (List Nat) := []
  tight : Bool := true
  gap : Bool := false
  next : Nat

/-- Reads an item, whose marker is given. The content of an item that starts with an empty line stands one
column after the marker, and so does code. An empty item before an empty line has no content. -/
def readItem (inner : Inner) (scope : Scope) (lines : Array Line) (stop : Nat) (line : Line)
    (marker : Marker) (done : Items) : Items :=
  let start := done.next
  let initial := line.column.toNat + marker.width
  let (blanks, column) := spread line.base initial (line.content.drop marker.width)
  let shift := line.shift + marker.width + blanks
  let hollow := line.text.length ≤ shift
  let gap := if hollow || column - initial > 4 then 1 else column - initial
  let inside := lines.setIfInBounds start { line with shift, column }
  let within :=
    { scope with level := scope.level + 2, indent := initial + gap, listIndent := some scope.indent }
  let r :=
    if hollow && isEmptyAt lines (start + 1) then { line := min (start + 2) stop }
    else inner within inside start stop
  { items := r.blocks.reverse :: done.items
    labels := done.labels ++ r.labels
    tight := done.tight && r.tight && !done.gap
    gap := r.line - start > 1 && isEmptyAt inside (r.line - 1)
    next := r.line }

def readItems (inner : Inner) (scope : Scope) (lines : Array Line) (stop : Nat) :
    (steps : Nat) → Line → Marker → Items → Items
  | 0, _, _, done => done
  | steps + 1, line, marker, done =>
    let done := readItem inner scope lines stop line marker done
    match lines[done.next]? with
    | none => done
    | some line =>
      if stop ≤ done.next || line.column < scope.indent || scope.isCode line ||
        scope.interrupts .list line then done
      else
        match Markdown.marker? line.content with
        | none => done
        | some next =>
          if marker.continues next then readItems inner scope lines stop steps line next done else done

/-! ## Reading -/

/-- Reads the block at a line, of which there is always one: what nothing else takes is a paragraph. -/
def readBlock (inner : Inner) (scope : Scope) (lines : Array Line) (start stop : Nat) (line : Line) : Found :=
  let cs := line.content
  let steps := lines.size
  let taken := fun (block : Block) (next : Nat) => Found.mk (some block) [] next
  if scope.isCode line then
    let last := codeEnd scope lines stop steps (start + 1) (start + 1)
    taken (.code (innerText lines start last (4 + scope.indent) ++ ['\n'])) last
  else
    match fence? cs with
    | some (mark, size) =>
      let (last, closed) := fenceEnd scope lines stop mark size steps (start + 1)
      taken (.code (textBetween lines (start + 1) last line.column.toNat)) (if closed then last + 1 else last)
    | none =>
    if cs.head? == some '>' then readQuote inner scope lines start stop line
    else if isBreak cs then taken .break (start + 1)
    else
    match scope.marker? line with
    | some marker =>
      let list := readItems inner scope lines stop steps line marker { next := start }
      { block := some (.list list.tight list.items.reverse), labels := list.labels, next := list.next }
    | none =>
    let last := paragraphEnd scope .definition lines steps (start + 1)
    let mayDefine := cs.head? == some '[' && Markdown.mayDefine '[' cs
    match (if mayDefine then definition? (trim (innerText lines start last scope.indent)) else none) with
    | some (label, ends) => { block := none, labels := [label], next := start + ends + 1 }
    | none =>
    match htmlKind? false cs with
    | some kind =>
      let last := if kind.endsWith cs then start + 1 else htmlEnd scope lines stop kind steps (start + 1)
      taken (.html (textBetween lines start last scope.indent)) last
    | none =>
    match atxHeading? cs with
    | some title => taken (.heading title) (start + 1)
    | none =>
    match underlineAt? scope lines stop steps (start + 1) with
    | some last => taken (.heading (trim (innerText lines start last scope.indent))) (last + 1)
    | none =>
    let last := paragraphEnd scope .paragraph lines steps (start + 1)
    taken (.paragraph (trim (innerText lines start last scope.indent))) last

/-- Reads blocks up to a line, or up to one that does not belong to the container. With `gap`, an empty line
has been read. -/
def readLines (inner : Inner) (scope : Scope) (lines : Array Line) (stop : Nat) :
    (steps : Nat) → (gap : Bool) → Reading → Reading
  | 0, _, r => r
  | steps + 1, gap, r =>
    if stop ≤ r.line then r
    else
      let start := skipEmpty lines scope.bound lines.size r.line
      let r := { r with line := start }
      match lines[start]? with
      | none => r
      | some line =>
        if stop ≤ start || line.column < scope.indent then r
        else if scope.level ≥ maxNesting then { r with line := stop }
        else
          let found := readBlock inner scope lines start stop line
          let r : Reading :=
            { blocks := found.block.toList ++ r.blocks, labels := r.labels ++ found.labels
              line := found.next, tight := !gap }
          if found.next < stop && isEmptyAt lines found.next then
            readLines inner scope lines stop steps true { r with line := found.next + 1 }
          else
            let gap := gap || (found.next - 1 < stop && isEmptyAt lines (found.next - 1))
            readLines inner scope lines stop steps gap r

/-- Reads the lines between two places, with containers that stand at most `depth` deep. -/
def readNested : (depth : Nat) → Inner
  | 0 => fun _ _ _ stop => { line := stop }
  | depth + 1 => fun scope lines start stop =>
    readLines (readNested depth) scope lines stop (lines.size + 1) false { line := start }

/-- The blocks of a document, and the labels that it defines. -/
def readBlocks (text : List Char) : List Block × List (List Nat) :=
  let lines := documentLines text
  let r := readNested (maxNesting + 1) { bound := lines.size } lines 0 lines.size
  (r.blocks.reverse, r.labels)

end ModuleDocs.Markdown
