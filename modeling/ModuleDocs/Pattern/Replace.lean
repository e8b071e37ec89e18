import ModuleDocs.Error
import ModuleDocs.Pattern.Match
import ModuleDocs.Pattern.Reader

/-!
# Replacing

A replacement is text with references to captures. A replacement without a backslash stands for
itself; any other is read in full before a match is looked for, so that a malformed one is refused
even where nothing matches.
-/
set_option autoImplicit false

namespace ModuleDocs.Pattern

open ModuleDocs.Text

/-! ## Replacements -/

inductive Piece where
  | text (cs : List Char)
  | capture (index : Nat)
deriving Repr, DecidableEq

/-- A reference to a capture, which the pattern must have. -/
def Piece.refer (pattern : Pattern) (index : Nat) : Except Error Piece :=
  if index ≤ pattern.captures then .ok (.capture index) else .error .badPattern

/-- A reference `<name>` or `<number>`, and what follows it. -/
def readReference (pattern : Pattern) (cs : List Token) : Except Error (Piece × List Token) := do
  match cs with
  | .plain '<' :: rest =>
    let taken := rest.takeWhile (· ≠ .plain '>')
    let name := taken.flatMap Token.text
    if name.isEmpty || rest.length == taken.length then .error .badPattern
    else
      let rest := rest.drop (taken.length + 1)
      if isIdentifier name then
        match pattern.names.lookup (String.ofList name) with
        | some index => return (.capture index, rest)
        | none => .error .unknownCapture
      else
        match Number.int? name with
        | some (.ofNat n) => return (← Piece.refer pattern n, rest)
        | _ => .error .badPattern
  | _ => .error .badPattern

/-- The plain characters at the start, at most `limit`, that pass a test. -/
def takePlain (limit : Nat) (test : Char → Bool) : List Token → List Char × List Token
  | .plain c :: rest =>
    match limit with
    | 0 => ([], .plain c :: rest)
    | limit + 1 =>
      if test c then
        let (cs, rest) := takePlain limit test rest
        (c :: cs, rest)
      else ([], .plain c :: rest)
  | cs => ([], cs)

/-- A number after a backslash: an octal code or a reference. -/
def readNumber (pattern : Pattern) (c : Char) (cs : List Token) : Except Error (Piece × List Token) := do
  if c = '0' then
    let (more, rest) := takePlain 2 isOctal cs
    return (.text [Char.ofNat (octalNumber more % 256)], rest)
  else
    let (second, rest) := takePlain 1 isAsciiDigit cs
    let (third, rest) := if isOctal c && second.any isOctal then takePlain 1 isOctal rest else ([], rest)
    if third.isEmpty then return (← Piece.refer pattern (decimalNumber (c :: second)), rest)
    else
      let n := octalNumber (c :: second ++ third)
      if n > 0o377 then .error .badPattern else return (.text [Char.ofNat n], rest)

def readPieces (pattern : Pattern) : (fuel : Nat) → List Token → Except Error (List Piece)
  | 0, _ => .ok []
  | _ + 1, [] => .ok []
  | fuel + 1, .plain c :: rest => do return .text [c] :: (← readPieces pattern fuel rest)
  | fuel + 1, .escaped c :: rest => do
    if c = 'g' then
      let (piece, rest) ← readReference pattern rest
      return piece :: (← readPieces pattern fuel rest)
    else if isAsciiDigit c then
      let (piece, rest) ← readNumber pattern c rest
      return piece :: (← readPieces pattern fuel rest)
    else match controlEscape? c with
      | some n => return .text [Char.ofNat n] :: (← readPieces pattern fuel rest)
      | none =>
        if isAsciiLetter c then .error .badPattern
        else return .text ['\\', c] :: (← readPieces pattern fuel rest)

/-- Reads a replacement. One that ends within an escape is malformed, unless something else is wrong in what
stands before its last character. -/
def readReplacement (pattern : Pattern) (source : List Char) : Except Error (List Piece) :=
  if source.contains '\\' then
    match tokens source with
    | some all => readPieces pattern all.length all
    | none => do
      let before := ((tokens source.dropLast).getD []).dropLast
      let _ ← readPieces pattern before.length before
      .error .badPattern
  else .ok [.text source]

/-! ## Substitution -/

/-- The text of a piece; a capture that took no part in the match is empty. -/
def Piece.expand (m : Match) : Piece → List Char
  | .text cs => cs
  | .capture index => (m.capture? index).getD []

/-- A text from offset `from` on, with each match replaced. -/
def substituteFrom (pieces : List Piece) (offset : Nat) (rest : List Char) : List Match → List Char
  | [] => rest
  | m :: more =>
    rest.take (m.start - offset) ++ pieces.flatMap (Piece.expand m) ++
      substituteFrom pieces (m.start + m.text.length)
        (rest.drop (m.start - offset + m.text.length)) more

def replaceIn (pattern : Pattern) (pieces : List Piece) (text : List Char) : List Char :=
  substituteFrom pieces 0 text (pattern.matchesIn text)

end ModuleDocs.Pattern

namespace ModuleDocs

def substitute (pattern replacement text : String) : Except Error String := do
  let pattern ← Pattern.read pattern
  let pieces ← pattern.readReplacement replacement.toList
  return String.ofList (pattern.replaceIn pieces text.toList)

end ModuleDocs
