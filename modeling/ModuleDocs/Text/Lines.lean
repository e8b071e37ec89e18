/-!
# Lines of a text

A text is cut into lines at any of eleven line ends, where a carriage return followed by a line feed
counts once; a line end at the very end of the text starts no further line. Files are read with
every carriage return, alone or before a line feed, taken for a line feed.
-/
set_option autoImplicit false

namespace ModuleDocs.Text

def isLineEnd (c : Char) : Bool :=
  let n := c.toNat
  (0x0a ≤ n && n ≤ 0x0d) || (0x1c ≤ n && n ≤ 0x1e) || n == 0x85 || n == 0x2028 || n == 0x2029

/-- The lines of a text, without their line ends. -/
def lines : List Char → List (List Char)
  | [] => []
  | '\r' :: '\n' :: rest => [] :: lines rest
  | c :: rest =>
    if isLineEnd c then [] :: lines rest
    else match lines rest with
      | [] => [[c]]
      | line :: more => (c :: line) :: more

/-- Lines put together again, with a line feed between two of them. -/
def joinLines (ls : List (List Char)) : List Char := List.intercalate ['\n'] ls

/-- A text with `\r\n` and `\r` turned into `\n`. -/
def unifyNewlines : List Char → List Char
  | [] => []
  | '\r' :: '\n' :: rest => '\n' :: unifyNewlines rest
  | '\r' :: rest => '\n' :: unifyNewlines rest
  | c :: rest => c :: unifyNewlines rest

end ModuleDocs.Text

namespace ModuleDocs

def linesOf (s : String) : List String := (Text.lines s.toList).map String.ofList

def unlines (ls : List String) : String := String.ofList (Text.joinLines (ls.map String.toList))

end ModuleDocs
