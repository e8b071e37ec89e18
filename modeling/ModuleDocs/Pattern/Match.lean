import ModuleDocs.Pattern.Syntax

/-!
# Matching

A matcher goes from a place in a text to the first place, in order of preference, at which the rest
of the work succeeds; the rest of the work is a continuation. A round of a repetition that is not
required is tried only at a place other than the one where the round before it began, which bounds the
number of rounds by the length of the text.
-/
set_option autoImplicit false

namespace ModuleDocs.Pattern

open ModuleDocs.Text

/-! ## Places in a text -/

/-- A place in a text: what stands before it (nearest first), what follows, its offset, and the
captures made on the way, latest first. -/
structure Place where
  before : List Char
  after : List Char
  offset : Nat
  captured : List (Nat × List Char)
deriving Repr, DecidableEq

def Place.start (text : List Char) : Place := ⟨[], text, 0, []⟩

def Place.next? (p : Place) : Option (Char × Place) :=
  match p.after with
  | [] => none
  | c :: rest => some (c, { p with before := c :: p.before, after := rest, offset := p.offset + 1 })

def Place.back? (p : Place) (n : Nat) : Option Place :=
  if n ≤ p.offset then
    some { p with
      before := p.before.drop n
      after := (p.before.take n).reverse ++ p.after
      offset := p.offset - n }
  else none

/-- The text between two places, the first of which is not the later one. -/
def Place.between (p q : Place) : List Char := (q.before.take (q.offset - p.offset)).reverse

def Place.capture? (p : Place) (index : Nat) : Option (List Char) := p.captured.lookup index

/-! ## Conditions on places -/

def atWordEdge (ascii : Bool) (p : Place) : Bool :=
  let inWord := fun (cs : List Char) =>
    match cs with
    | [] => false
    | c :: _ => Category.has ascii c .word
  inWord p.before != inWord p.after

def Anchor.holds (p : Place) : Anchor → Bool
  | .textStart => p.before.isEmpty
  | .textEnd => p.after.isEmpty
  | .lineStart => p.before.isEmpty || p.before.head? == some '\n'
  | .lineEnd => p.after.isEmpty || p.after.head? == some '\n'
  | .lastLineEnd => p.after.isEmpty || p.after == ['\n']
  | .wordEdge ascii => atWordEdge ascii p
  | .wordInside ascii => !(p.before.isEmpty && p.after.isEmpty) && !atWordEdge ascii p

/-! ## Matchers -/

abbrev Matcher := Place → (Place → Option Place) → Option Place

/-- Exactly `n` rounds. -/
def rounds (round : Matcher) : Nat → Matcher
  | 0 => fun p k => k p
  | n + 1 => fun p k => round p fun q => rounds round n q k

/-- Up to `left` further rounds, as many as possible first. -/
def moreRounds (round : Matcher) : (budget : Nat) → (left : Option Nat) → (last : Option Nat) → Matcher
  | 0, _, _ => fun p k => k p
  | budget + 1, left, last => fun p k =>
    if left = some 0 ∨ last = some p.offset then k p
    else match round p fun q => moreRounds round budget (left.map (· - 1)) (some p.offset) q k with
      | some q => some q
      | none => k p

/-- Up to `left` further rounds, as few as possible first. -/
def fewRounds (round : Matcher) : (budget : Nat) → (left : Option Nat) → (last : Option Nat) → Matcher
  | 0, _, _ => fun p k => k p
  | budget + 1, left, last => fun p k =>
    match k p with
    | some q => some q
    | none =>
      if left = some 0 ∨ last = some p.offset then none
      else round p fun q => fewRounds round budget (left.map (· - 1)) (some p.offset) q k

/-- At least `least` and at most `most` rounds; past the least, many of them are tried first. -/
def manyRounds (round : Matcher) (least : Nat) (most : Option Nat) : Matcher := fun p k =>
  rounds round least p fun q =>
    moreRounds round (q.after.length + 2) (most.map (· - least)) none q k

def someRounds (round : Matcher) (least : Nat) (most : Option Nat) : Matcher := fun p k =>
  rounds round least p fun q =>
    fewRounds round (q.after.length + 2) (most.map (· - least)) none q k

def literally (same : Char → Char → Bool) : List Char → Matcher
  | [] => fun p k => k p
  | c :: rest => fun p k =>
    match p.next? with
    | some (d, q) => if same c d then literally same rest q k else none
    | none => none

def Node.run : Node → Matcher
  | .empty => fun p k => k p
  | .char c => fun p k =>
    match p.next? with
    | some (d, q) => if d = c then k q else none
    | none => none
  | .set s => fun p k =>
    match p.next? with
    | some (d, q) => if s.has d then k q else none
    | none => none
  | .anyChar newlineToo => fun p k =>
    match p.next? with
    | some (d, q) => if newlineToo || d != '\n' then k q else none
    | none => none
  | .anchor a => fun p k => if a.holds p then k p else none
  | .seq first second => fun p k => first.run p fun q => second.run q k
  | .alt first second => fun p k =>
    match first.run p k with
    | some q => some q
    | none => second.run p k
  | .repeated body least most greed => fun p k =>
    match greed with
    | .greedy => manyRounds body.run least most p k
    | .reluctant => someRounds body.run least most p k
    -- The rounds are settled before the rest of the work is tried, so none is given back.
    | .possessive => (manyRounds body.run least most p some).bind k
  | .capture index body => fun p k =>
    body.run p fun q => k { q with captured := (index, p.between q) :: q.captured }
  | .recall index foldCase ascii => fun p k =>
    match p.capture? index with
    | none => none
    | some text =>
      let fold := if ascii then lowerAsciiCode else lowerCode
      let same := fun (c d : Char) => if foldCase then fold c.toNat == fold d.toNat else c == d
      literally same text p k
  -- What was captured on a look around stays, but the place does not move.
  | .ahead wanted body => fun p k =>
    match body.run p some with
    | some q => if wanted then k { p with captured := q.captured } else none
    | none => if wanted then none else k p
  | .behind wanted width body => fun p k =>
    match (p.back? width).bind (body.run · some) with
    | some q => if wanted then k { p with captured := q.captured } else none
    | none => if wanted then none else k p
  | .atomic body => fun p k => (body.run p some).bind k
  | .ifCaptured index yes no => fun p k =>
    if (p.capture? index).isSome then yes.run p k else no.run p k

end ModuleDocs.Pattern

/-! ## Searching -/

namespace ModuleDocs

/-- A match: where it starts, the matched text, the captures, and the place where it ends. -/
structure Match where
  start : Nat
  text : List Char
  stop : Pattern.Place
deriving Repr, DecidableEq

namespace Match

/-- The text of a capture, with capture 0 the whole match. -/
def capture? (m : Match) (index : Nat) : Option (List Char) :=
  if index = 0 then some m.text else m.stop.capture? index

end Match

namespace Pattern

/-- The match that begins at a place; with `advance` it must not be empty. -/
def matchAt? (pattern : Pattern) (advance : Bool) (p : Place) : Option Match :=
  let p := { p with captured := [] }
  let accept := fun (q : Place) => if advance && q.offset == p.offset then none else some q
  (pattern.node.run p accept).map fun q => ⟨p.offset, p.between q, q⟩

/-- The first match at a place or after it, looking at `rest.length` further places. -/
def searchFrom? (pattern : Pattern) (advance : Bool) (p : Place) : (rest : List Char) → Option Match
  | [] => pattern.matchAt? advance p
  | c :: rest =>
    match pattern.matchAt? advance p with
    | some m => some m
    | none =>
      pattern.searchFrom? false
        { p with before := c :: p.before, after := rest, offset := p.offset + 1 } rest

/-- All matches from a place on, none overlapping another. An empty match may follow a match
directly only if that one was not empty. -/
def matchesFrom (pattern : Pattern) : (fuel : Nat) → (advance : Bool) → Place → List Match
  | 0, _, _ => []
  | fuel + 1, advance, p =>
    match pattern.searchFrom? advance p p.after with
    | none => []
    | some m => m :: pattern.matchesFrom fuel m.text.isEmpty m.stop

/-- All matches in a text, from left to right. -/
def matchesIn (pattern : Pattern) (text : List Char) : List Match :=
  -- At each place at most one empty match begins, and one that is not empty.
  pattern.matchesFrom (2 * text.length + 2) false (Place.start text)

def leads (pattern : Pattern) (text : List Char) : Bool :=
  (pattern.matchAt? false (Place.start text)).isSome

end Pattern

end ModuleDocs
