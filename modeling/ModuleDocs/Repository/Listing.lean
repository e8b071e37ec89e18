import ModuleDocs.Workspace

/-!
# Lists of staged files

The staged files of a repository as its tools list them: by their paths from the root of the repository, in
order, and in quotes where a name has characters other than the printable ones of ASCII.
-/
set_option autoImplicit false

namespace ModuleDocs

namespace Staged

def controlLetters : List (Nat × Char) :=
  [(7, 'a'), (8, 'b'), (9, 't'), (10, 'n'), (11, 'v'), (12, 'f'), (13, 'r'), (34, '"'), (92, '\\')]

def octal (n : Nat) : List Char :=
  [n / 64 % 8, n / 8 % 8, n % 8].map fun d => Char.ofNat (48 + d)

def escapeByte (n : Nat) : List Char :=
  match controlLetters.lookup n with
  | some c => ['\\', c]
  | none => if n < 32 || n ≥ 127 then '\\' :: octal n else [Char.ofNat n]

/-- A name, in quotes if one of its bytes needs to be escaped. -/
def quotedName (name : String) : String :=
  let written := (name.toList.flatMap String.utf8EncodeChar).flatMap fun b => escapeByte b.toNat
  if written = name.toList then name else String.ofList ('"' :: written ++ ['"'])

end Staged

/-- The names of the staged files, from the root of the repository. -/
def Repository.stagedNames (r : Repository) : List String :=
  let names := r.staged.map fun loc => "/".intercalate (loc.drop r.root.length)
  (names.mergeSort (· ≤ ·)).map Staged.quotedName

end ModuleDocs
