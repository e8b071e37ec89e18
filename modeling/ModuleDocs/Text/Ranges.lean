/-!
# Sets of code points written as ranges

A Unicode property is given as text: hexadecimal code points and ranges `lo-hi`, separated by blanks.
-/
set_option autoImplicit false

namespace ModuleDocs.Text

def hexValue? (c : Char) : Option Nat :=
  if '0' ≤ c ∧ c ≤ '9' then some (c.toNat - 48)
  else if 'a' ≤ c ∧ c ≤ 'f' then some (c.toNat - 87)
  else if 'A' ≤ c ∧ c ≤ 'F' then some (c.toNat - 55)
  else none

/-- The number written by hexadecimal digits; other characters are left out. -/
def hexNumber (cs : List Char) : Nat :=
  (cs.filterMap hexValue?).foldl (fun n d => 16 * n + d) 0

/-- Ranges of code points, both ends included. -/
abbrev Ranges := List (Nat × Nat)

def Ranges.ofLines (lines : List String) : Ranges :=
  lines.flatMap fun line => (line.splitOn " ").map fun word =>
    match word.splitOn "-" with
    | [lo, hi] => (hexNumber lo.toList, hexNumber hi.toList)
    | _ => (hexNumber word.toList, hexNumber word.toList)

def Ranges.has (ranges : Ranges) (n : Nat) : Bool := ranges.any fun r => r.1 ≤ n && n ≤ r.2

end ModuleDocs.Text
