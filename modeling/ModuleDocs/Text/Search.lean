/-!
# Looking for a piece of text

Splitting at a separator and replacing a piece, in both cases scanning from the left and never using
a character twice.
-/
set_option autoImplicit false

namespace ModuleDocs.Text

/-! ## Splitting -/

def consFirst (c : Char) : List (List Char) → List (List Char)
  | [] => [[c]]
  | piece :: more => (c :: piece) :: more

/-- Splits at `sep`, leaving out the next `skip` characters, which belong to a separator. -/
def splitSkipping (sep : List Char) : Nat → List Char → List (List Char)
  | _, [] => [[]]
  | skip + 1, _ :: rest => splitSkipping sep skip rest
  | 0, c :: rest =>
    if sep.isPrefixOf (c :: rest) then [] :: splitSkipping sep (sep.length - 1) rest
    else consFirst c (splitSkipping sep 0 rest)

/-- The pieces of a text between the occurrences of a non-empty separator. -/
def splitOn (sep cs : List Char) : List (List Char) := splitSkipping sep 0 cs

/-- Puts `new` in the place of every occurrence of `old`. -/
def replaceAll (old new cs : List Char) : List Char := List.intercalate new (splitOn old cs)

/-! ## Finding -/

def findFirst? (piece : List Char) : List Char → Option Nat
  | [] => if piece.isEmpty then some 0 else none
  | c :: rest =>
    if piece.isPrefixOf (c :: rest) then some 0 else (findFirst? piece rest).map (· + 1)

def findLast? (piece : List Char) : List Char → Option Nat
  | [] => if piece.isEmpty then some 0 else none
  | c :: rest =>
    match findLast? piece rest with
    | some n => some (n + 1)
    | none => if piece.isPrefixOf (c :: rest) then some 0 else none

def occursIn (piece cs : List Char) : Bool := (findFirst? piece cs).isSome

def dropPrefix? (piece cs : List Char) : Option (List Char) :=
  if piece.isPrefixOf cs then some (cs.drop piece.length) else none

end ModuleDocs.Text

namespace ModuleDocs

def beginsWith (s start : String) : Bool := start.toList.isPrefixOf s.toList

def finishesWith (s stop : String) : Bool := stop.toList.isSuffixOf s.toList

end ModuleDocs
