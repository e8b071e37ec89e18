/-!
# Blank characters

White space in the Unicode sense, and the operations on a text that only look at it: cutting it off
at either end, and measuring the indentation of a line.
-/
set_option autoImplicit false

namespace ModuleDocs.Text

/-- White space: the Unicode spaces together with the ASCII separators U+001C to U+001F. -/
def isBlank (c : Char) : Bool :=
  let n := c.toNat
  (0x09 ≤ n && n ≤ 0x0d) || (0x1c ≤ n && n ≤ 0x20) || n == 0x85 || n == 0xa0 || n == 0x1680 ||
    (0x2000 ≤ n && n ≤ 0x200a) || n == 0x2028 || n == 0x2029 || n == 0x202f || n == 0x205f ||
    n == 0x3000

/-! ## Trimming -/

def trimStart (cs : List Char) : List Char := cs.dropWhile isBlank

def trimEnd (cs : List Char) : List Char := (cs.reverse.dropWhile isBlank).reverse

def trim (cs : List Char) : List Char := trimEnd (trimStart cs)

def indent (cs : List Char) : Nat := (cs.takeWhile isBlank).length

end ModuleDocs.Text

namespace ModuleDocs

def trimmed (s : String) : String := String.ofList (Text.trim s.toList)

end ModuleDocs
