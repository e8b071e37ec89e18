import ModuleDocs.Text.Identifier

/-!
# Names

A plain name consists of word characters, of what else can stand in identifiers, and of hyphens. It stands for
itself wherever it is searched for; any other name is taken for a pattern.
-/
set_option autoImplicit false

namespace ModuleDocs.Hcl

def isPlainName (name : List Char) : Bool :=
  !name.isEmpty && name.all fun c => Text.isWord c || Text.continuesName c || c == '-'

end ModuleDocs.Hcl
