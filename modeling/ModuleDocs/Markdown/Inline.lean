import ModuleDocs.Markdown.Address
import ModuleDocs.Markdown.Link
import ModuleDocs.Text.Punctuation

/-!
# The text of a paragraph

What is left of a paragraph when its emphasis, links, code spans, tags and character references are
resolved. The text is read from the left, token by token. At an opening bracket the tokens after it are
looked through for the closing one; where each of them ends is remembered, and so is where runs of ticks
were found.
-/
set_option autoImplicit false

namespace ModuleDocs.Markdown

open ModuleDocs.Text

/-! ## Pieces -/

/-- A run of equal emphasis marks. -/
structure MarkRun where
  mark : Char
  size : Nat
  left : Nat
  opens : Bool
  closes : Bool
deriving Repr, DecidableEq

/-- A part of a paragraph that has been read. -/
inductive Piece where
  | plain (c : Char)
  /-- The text of a token, which nothing later changes. -/
  | settled (cs : List Char)
  | run (r : MarkRun)
deriving Repr, DecidableEq

def Piece.text : Piece → List Char
  | .plain c => [c]
  | .settled cs => cs
  | .run r => List.replicate r.left r.mark

/-! ## Emphasis -/

def isFlankBlank (c : Char) : Bool :=
  let n := c.toNat
  (0x09 ≤ n && n ≤ 0x0d) || (0x2000 ≤ n && n ≤ 0x200a) ||
    [0x20, 0xa0, 0x1680, 0x202f, 0x205f, 0x3000].contains n

/-- A run of marks between two characters. A mark opens before text and closes after it; underscores
within a word do neither. -/
def MarkRun.between (mark : Char) (size : Nat) (last next : Char) : MarkRun :=
  let lastBlank := isFlankBlank last
  let nextBlank := isFlankBlank next
  let lastMark := isPunctuation last
  let nextMark := isPunctuation next
  let before := !(nextBlank || (nextMark && !(lastBlank || lastMark)))
  let after := !(lastBlank || (lastMark && !(nextBlank || nextMark)))
  { mark, size, left := size
    opens := before && (mark != '_' || !after || lastMark)
    closes := after && (mark != '_' || !before || nextMark) }

/-- Whether a run can pair off with a later one. Runs that could both open and close only pair off if
their sizes do not add up to a multiple of three, unless both are such multiples. -/
def MarkRun.pairs (opener closer : MarkRun) : Bool :=
  opener.mark == closer.mark && opener.opens && opener.left != 0 &&
    !((opener.closes || closer.opens) && (opener.size + closer.size) % 3 == 0 &&
      !(opener.size % 3 == 0 && closer.size % 3 == 0))

/-- Pairs off as many marks of a run as the nearest fitting earlier run has. The runs in between open
nothing any more. The pieces are given from the last to the first. -/
def pairOff? (closer : MarkRun) : List Piece → Option (Nat × List Piece)
  | [] => none
  | .run r :: more =>
    if r.pairs closer then
      let n := min r.left closer.left
      some (n, .run { r with left := r.left - n } :: more)
    else (pairOff? closer more).map fun p => (p.1, .run { r with opens := false } :: p.2)
  | piece :: more => (pairOff? closer more).map fun p => (p.1, piece :: p.2)

/-- Pairs off a run with earlier ones until nothing fits, and adds what is left of it. -/
def closeRun : (fuel : Nat) → MarkRun → List Piece → List Piece
  | 0, r, pieces => .run r :: pieces
  | fuel + 1, r, pieces =>
    if !r.closes || r.left = 0 then .run r :: pieces
    else
      match pairOff? r pieces with
      | none => .run r :: pieces
      | some (n, pieces) => closeRun fuel { r with left := r.left - n } pieces

/-- The text of pieces, given from the last to the first. -/
def flatten (pieces : List Piece) : List Char :=
  let paired := pieces.reverse.foldl (fun done piece =>
    match piece with
    | .run r => closeRun r.size r done
    | piece => piece :: done) []
  paired.reverse.flatMap Piece.text

/-! ## Paragraphs -/

/-- A paragraph, and what it is read with. -/
structure Paragraph where
  text : List Char
  defined : List (List Nat)
  bare : Bool := false

def Paragraph.between (p : Paragraph) (start stop : Nat) : List Char := (p.text.take stop).drop start

/-- What is remembered while a paragraph is read. -/
structure Memory where
  ends : List (Nat × Nat) := []
  /-- The sizes of runs of ticks, and where such a run was found last. -/
  ticks : List (Nat × Nat) := []
  searched : Bool := false

/-- A way to look for the end of the token at a place. -/
abbrev Skip := Memory → (start : Nat) → Nat × Memory

/-! ## Code spans -/

def isTick (c : Char) : Bool := c == Char.ofNat 0x60

/-- Looks for a run of exactly `size` ticks: where it starts and ends. A run that starts before `stop` is cut
there. -/
def findTicks (size stop : Nat) : (steps : Nat) → Memory → (place : Nat) → List Char →
    Option (Nat × Nat) × Memory
  | 0, m, _, _ => (none, m)
  | steps + 1, m, place, cs =>
    let before := (cs.takeWhile (!isTick ·)).length
    let start := place + before
    match cs.drop before with
    | [] => (none, { m with searched := true })
    | _ :: rest =>
      let more := ((rest.take (stop - (start + 1))).takeWhile isTick).length
      if more + 1 = size then (some (start, start + size), m)
      else
        findTicks size stop steps { m with ticks := (more + 1, start) :: m.ticks } (start + more + 1)
          (rest.drop more)

/-- The content of a code span: line ends count as blanks, and one blank goes on both sides if there is
one on each and something between. -/
def codeText (cs : List Char) : List Char :=
  let cs := cs.map fun c => if c = '\n' then ' ' else c
  if cs.head? == some ' ' && cs.getLast? == some ' ' && !(trim cs).isEmpty then cs.tail.dropLast else cs

/-- A run of ticks: the text it gives, and where the token ends. Once the ticks have been looked through up to
the end, a run is only followed if one of its size was last found after it. -/
def readTicks (p : Paragraph) (stop : Nat) (m : Memory) (start : Nat) : (List Char × Nat) × Memory :=
  let size := ((p.between start stop).takeWhile isTick).length
  let first := start + size
  let ticks := List.replicate size (Char.ofNat 0x60)
  if m.searched && (m.ticks.lookup size).getD 0 ≤ start then ((ticks, first), m)
  else
    let rest := p.text.drop first
    match findTicks size stop (rest.length + 1) m first rest with
    | (some (last, next), m) => ((codeText (p.between first last), next), m)
    | (none, m) => ((ticks, first), m)

/-! ## Links -/

/-- Where the label ends that starts at a place: at a closing bracket outside of all tokens. With `plain`, a
link within the label spoils it. -/
def labelEnd? (skip : Skip) (p : Paragraph) (stop : Nat) (plain : Bool) :
    (steps depth : Nat) → Memory → (place : Nat) → Option Nat × Memory
  | 0, _, m, _ => (none, m)
  | steps + 1, depth, m, place =>
    match (p.between place stop).head? with
    | none => (none, m)
    | some c =>
      if c = ']' && depth = 0 then (some place, m)
      else
        let (next, m) := skip m place
        if c = '[' then
          -- A bracket that is a token of its own only opens a level; a longer token is a link.
          if next = place + 1 then labelEnd? skip p stop plain steps (depth + 1) m next
          else if plain then (none, m)
          else labelEnd? skip p stop plain steps depth m next
        else labelEnd? skip p stop plain steps (if c = ']' then depth - 1 else depth) m next

/-- Where a link by reference ends, whose own text is a label if no other follows at `place`. -/
def referenceEnd? (skip : Skip) (p : Paragraph) (stop : Nat) (m : Memory) (start last place : Nat) :
    Option Nat × Memory :=
  let known := fun (label : List Char) => p.defined.contains (normalLabel label)
  if p.defined.isEmpty then (none, m)
  else
    let (found, m) :=
      if (p.between place stop).head? = some '[' then
        labelEnd? skip p stop false (stop + 1) 0 m (place + 1)
      else (none, m)
    let (label, next) :=
      match found with
      | some close => (p.between (place + 1) close, close + 1)
      | none => ([], last + 1)
    let label := if label.isEmpty then p.between start last else label
    (if known label then some next else none, m)

/-- A link, or an image, whose label starts at a place: where the label ends, and where the token does. A link
without a proper target may still be one by reference; an image is not. -/
def link? (skip : Skip) (p : Paragraph) (stop : Nat) (image : Bool) (m : Memory) (start : Nat) :
    Option (Nat × Nat) × Memory :=
  match labelEnd? skip p stop (!image) (stop + 1) 0 m start with
  | (none, m) => (none, m)
  | (some last, m) =>
    let ends := fun (found : Option Nat × Memory) => (found.1.map fun next => (last, next), found.2)
    match p.between (last + 1) stop with
    | '(' :: target =>
      -- A target that is cut off spoils the label too, which could else be a reference.
      if (target.dropWhile isSpacing).isEmpty then (none, m)
      else
        let rest := afterTarget target
        let place := stop - rest.length
        if rest.head? = some ')' then (some (last, place + 1), m)
        else if image then (none, m)
        else ends (referenceEnd? skip p stop m start last (place + 1))
    | _ => ends (referenceEnd? skip p stop m start last (last + 1))

/-! ## Tokens -/

def stopsText (c : Char) : Bool :=
  isTick c || "\n!#$%&*+-:<=>@[\\]^_\x7b\x7d~".toList.contains c

def newlineEnd (p : Paragraph) (stop start : Nat) : Nat :=
  start + 1 + ((p.between (start + 1) stop).takeWhile fun c => c == ' ' || c == '\t').length

/-- What stands in angle brackets: the text it gives, and where it ends. -/
def angle? (p : Paragraph) (stop start : Nat) : Option (List Char × Nat) :=
  let within := p.between start stop
  match bracketedLink? within with
  | some (url, rest) => some (shownAddress url, stop - rest.length)
  | none =>
    if within.length < 3 then none
    else (inlineTag? (p.text.drop start)).map fun rest => ([], p.text.length - rest.length)

/-- A reference to a character: the text it gives, and where it ends. -/
def reference? (p : Paragraph) (stop start : Nat) : Option (List Char × Nat) :=
  if stop ≤ start + 1 then none
  else (markdownReference? (p.text.drop (start + 1))).map fun r => (r.1, p.text.length - r.2.length)

/-- Where the token at a place ends, if there is one. -/
def tokenEnd? (skip : Skip) (p : Paragraph) (stop : Nat) (m : Memory) (start : Nat) : Option Nat × Memory :=
  match p.between start stop with
  | [] => (none, m)
  | c :: rest =>
    if !stopsText c then (some (start + 1 + (rest.takeWhile (!stopsText ·)).length), m)
    else if c = '\n' then (some (newlineEnd p stop start), m)
    else if c = '\\' then
      (match rest with
      | [] => none
      | '\n' :: _ => some (newlineEnd p stop (start + 1))
      | _ :: _ => some (start + 2), m)
    else if isTick c then
      let (found, m) := readTicks p stop m start
      (some found.2, m)
    else if c = '[' then
      let (found, m) := link? skip p stop false m (start + 1)
      (found.map (·.2), m)
    else if c = '!' && rest.head? = some '[' then
      let (found, m) := link? skip p stop true m (start + 2)
      (found.map (·.2), m)
    else if c = '<' then ((angle? p stop start).map (·.2), m)
    else if c = '&' then ((reference? p stop start).map (·.2), m)
    else (none, m)

/-- Looks for the end of the token at a place, with links that stand at most `left` deep. What stands deeper
ends after the paragraph. -/
def skipToken (p : Paragraph) (stop : Nat) : (left : Nat) → Skip
  | 0 => fun m start =>
    match m.ends.lookup start with
    | some last => (last, m)
    | none => (stop + 1, { m with ends := (start, stop + 1) :: m.ends })
  | left + 1 => fun m start =>
    match m.ends.lookup start with
    | some last => (last, m)
    | none =>
      let (found, m) := tokenEnd? (skipToken p stop left) p stop m start
      let last := found.getD (start + 1)
      (last, { m with ends := (start, last) :: m.ends })

/-! ## Reading -/

/-- How far a paragraph has been read. The pieces are kept from the last to the first. -/
structure Progress where
  pieces : List Piece := []
  memory : Memory
  place : Nat

def Progress.add (r : Progress) (piece : Piece) (next : Nat) : Progress :=
  { r with pieces := piece :: r.pieces, place := next }

abbrev ReadSpan := Memory → (start stop : Nat) → List Char × Memory

/-- Reads the token at a place, which starts with `c`. -/
def readToken (image : List Char → List Char) (span : ReadSpan) (skip : Skip) (p : Paragraph) (stop : Nat)
    (r : Progress) (c : Char) (rest : List Char) : Progress :=
  let start := r.place
  let special := fun (cs : List Char) => Piece.settled (if p.bare then [] else cs)
  let literal := r.add (.plain c) (start + 1)
  if !stopsText c then
    let more := rest.takeWhile (!stopsText ·)
    { r with pieces := more.reverse.map .plain ++ .plain c :: r.pieces, place := start + 1 + more.length }
  else if c = '\n' then
    -- The blanks at the end of a line go with those at the start of the next.
    { r with pieces := .settled ['\n'] :: r.pieces.dropWhile (· == .plain ' '), place := newlineEnd p stop start }
  else if c = '\\' then
    match rest with
    | [] => literal
    | '\n' :: _ => r.add (.settled ['\n']) (newlineEnd p stop (start + 1))
    | d :: _ => r.add (special (if isAsciiPunctuation d then [d] else [c, d])) (start + 2)
  else if isTick c then
    let ((text, next), memory) := readTicks p stop r.memory start
    { pieces := .settled text :: r.pieces, memory, place := next }
  else if c = '*' || c = '_' then
    let size := 1 + (rest.takeWhile (· == c)).length
    let last := if start = 0 then ' ' else ((p.text.drop (start - 1)).head?).getD ' '
    let next := ((rest.drop (size - 1)).head?).getD ' '
    r.add (.run (.between c size last next)) (start + size)
  else if c = '[' then
    match link? skip p stop false r.memory (start + 1) with
    | (none, memory) => { literal with memory }
    | (some (last, next), memory) =>
      let (text, memory) := span memory (start + 1) last
      { pieces := .settled text :: r.pieces, memory, place := next }
  else if c = '!' && rest.head? = some '[' then
    match link? skip p stop true r.memory (start + 2) with
    | (none, memory) => { literal with memory }
    | (some (last, next), memory) =>
      { pieces := .settled (image (p.between (start + 2) last)) :: r.pieces, memory, place := next }
  else if c = '<' then
    match angle? p stop start with
    | some (text, next) => r.add (.settled text) next
    | none => literal
  else if c = '&' then
    match reference? p stop start with
    | some (text, next) => r.add (special text) next
    | none => literal
  else literal

def readTokens (image : List Char → List Char) (span : ReadSpan) (skip : Skip) (p : Paragraph) (stop : Nat) :
    (steps : Nat) → Progress → Progress
  | 0, r => r
  | steps + 1, r =>
    match p.between r.place stop with
    | [] => r
    | c :: rest => readTokens image span skip p stop steps (readToken image span skip p stop r c rest)

/-- The text between two places, with links that stand at most `left` deep. -/
def readSpan (image : List Char → List Char) (p : Paragraph) : (left : Nat) → ReadSpan
  | 0 => fun m start stop => (p.between start stop, m)
  | left + 1 => fun m start stop =>
    let r := readTokens image (readSpan image p left) (skipToken p stop (left + 1)) p stop (stop - start)
      { memory := m, place := start }
    (flatten r.pieces, r.memory)

def maxTokenNesting : Nat := 20

/-- The text of an image, which is all there is to see of it: the rest of a text in which escaped and named
characters are left out. -/
def imageText (defined : List (List Nat)) : (depth : Nat) → List Char → List Char
  | 0, cs => cs
  | depth + 1, cs =>
    trim (readSpan (imageText defined depth) { text := cs, defined, bare := true } maxTokenNesting {} 0
      cs.length).1

/-- The text of a paragraph, where `defined` are the labels that have definitions. -/
def inlineText (defined : List (List Nat)) (cs : List Char) : List Char :=
  trim (readSpan (imageText defined cs.length) { text := cs, defined } maxTokenNesting {} 0 cs.length).1

end ModuleDocs.Markdown
