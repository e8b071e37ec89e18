/-!
# Wildcards

Patterns for the bytes of names: a question mark for one byte, a star for any number of them, and brackets for
one out of a set. In patterns for paths only a double star between slashes goes over slashes.
-/
set_option autoImplicit false

namespace ModuleDocs.Glob

def slash : Nat := 47

def bytesOf (s : String) : List Nat := (s.toList.flatMap String.utf8EncodeChar).map UInt8.toNat

def code (c : Char) : Nat := c.toNat

def isSpecial (n : Nat) : Bool := [code '*', code '?', code '[', code '\\'].contains n

inductive Piece where
  | byte (n : Nat)
  | any
  | set (negated : Bool) (ranges : List (Nat × Nat))
  /-- Any bytes, with slashes or without. -/
  | star (slashes : Bool)
  /-- Any directories, with the slash after them. -/
  | directories
  | nothing
deriving Repr, DecidableEq

/-! ## Reading -/

def classes : List (String × List (Nat × Nat)) :=
  [("alnum", [(48, 57), (65, 90), (97, 122)]), ("alpha", [(65, 90), (97, 122)]), ("blank", [(9, 9), (32, 32)]),
    ("cntrl", [(0, 31), (127, 127)]), ("digit", [(48, 57)]), ("graph", [(33, 126)]), ("lower", [(97, 122)]),
    ("print", [(32, 126)]), ("punct", [(33, 47), (58, 64), (91, 96), (123, 126)]),
    ("space", [(9, 13), (32, 32)]), ("upper", [(65, 90)]), ("xdigit", [(48, 57), (65, 70), (97, 102)])]

/-- One member of a set, or a range: it, the byte that a range after it can start with, and the rest. -/
def readMember (last : Option Nat) : List Nat → Option (List (Nat × Nat) × Option Nat × List Nat)
  | [] => none
  | c :: rest =>
    let rangeTo := match rest with
      | d :: _ => if c == code '-' && d ≠ code ']' then last else none
      | [] => none
    match rangeTo, rest with
    | some low, d :: rest =>
      if d == code '\\' then
        match rest with
        | e :: rest => some ([(low, e)], none, rest)
        | [] => none
      else some ([(low, d)], none, rest)
    | _, _ =>
      if c == code '\\' then
        match rest with
        | d :: rest => some ([(d, d)], some d, rest)
        | [] => none
      else if c == code '[' && rest.head? == some (code ':') then
        let name := rest.tail.takeWhile (· ≠ code ']')
        if name.length == rest.tail.length then none
        else if name.getLast? == some (code ':') then
          match classes.find? fun e => bytesOf e.1 == name.dropLast with
          | some e => some (e.2, none, rest.drop (name.length + 2))
          | none => none
        else some ([(c, c)], some c, rest)
      else some ([(c, c)], some c, rest)

/-- The members of a set up to its closing bracket, which may come first as a member. -/
def readMembers : (fuel : Nat) → (last : Option Nat) → List Nat → Option (List (Nat × Nat) × List Nat)
  | 0, _, _ => none
  | fuel + 1, last, cs => do
    let (ranges, last, rest) ← readMember last cs
    if rest.head? == some (code ']') then return (ranges, rest.tail)
    else
      let (more, rest) ← readMembers fuel last rest
      return (ranges ++ more, rest)

/-- The pieces of a pattern, the byte before which is known. One that is malformed fits nothing. -/
def readPieces (path : Bool) : (fuel : Nat) → (before : Option Nat) → List Nat → List Piece
  | 0, _, _ => []
  | _ + 1, _, [] => []
  | fuel + 1, before, c :: rest =>
    if c == code '\\' then
      match rest with
      | d :: rest => .byte d :: readPieces path fuel (some d) rest
      | [] => [.nothing]
    else if c == code '?' then .any :: readPieces path fuel (some c) rest
    else if c == code '*' then
      let stars := (rest.takeWhile (· == c)).length
      let rest := rest.drop stars
      let bounded := before.all (· == slash) &&
        (rest.isEmpty || rest.head? == some slash || rest.take 2 == [code '\\', slash])
      if stars == 0 || !path || !bounded then .star (!path) :: readPieces path fuel (some c) rest
      else
        match rest with
        | d :: more =>
          if d == slash then .directories :: readPieces path fuel (some slash) more
          else .star true :: readPieces path fuel (some c) rest
        | [] => [.star true]
    else if c == code '[' then
      let negated := rest.head? == some (code '!') || rest.head? == some (code '^')
      let members := if negated then rest.tail else rest
      match readMembers (members.length + 1) none members with
      | some (ranges, rest) => .set negated ranges :: readPieces path fuel (some (code ']')) rest
      | none => [.nothing]
    else .byte c :: readPieces path fuel (some c) rest

/-! ## Matching -/

/-- What is left of a text after any number of its bytes, with slashes or without. -/
def tails (slashes : Bool) : List Nat → List (List Nat)
  | [] => [[]]
  | c :: rest => (c :: rest) :: if c == slash && !slashes then [] else tails slashes rest

def fits (path : Bool) : List Piece → List Nat → Bool
  | [], text => text.isEmpty
  | .byte n :: pieces, text =>
    match text with
    | c :: rest => c == n && fits path pieces rest
    | [] => false
  | .any :: pieces, text =>
    match text with
    | c :: rest => !(path && c == slash) && fits path pieces rest
    | [] => false
  | .set negated ranges :: pieces, text =>
    match text with
    | c :: rest =>
      (ranges.any fun r => r.1 ≤ c && c ≤ r.2) ≠ negated && !(path && c == slash) && fits path pieces rest
    | [] => false
  | .star slashes :: pieces, text => (tails slashes text).any (fits path pieces)
  | .directories :: pieces, text =>
    fits path pieces text || (tails true text).any fun rest =>
      rest.head? == some slash && fits path pieces rest.tail
  | .nothing :: _, _ => false

/-- Whether a pattern fits the whole of a text, as a path or as a name. -/
def isMatch (path : Bool) (pattern text : List Nat) : Bool :=
  fits path (readPieces path (pattern.length + 1) none pattern) text

/-- The bytes of a pattern before the first one with a meaning of its own. -/
def literalPart (pattern : List Nat) : List Nat := pattern.takeWhile (!isSpecial ·)

end ModuleDocs.Glob
