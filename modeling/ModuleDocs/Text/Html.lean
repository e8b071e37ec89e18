/-!
# HTML in texts

The line break of HTML, and the characters that have a meaning there.
-/
set_option autoImplicit false

namespace ModuleDocs.Text

def lineBreak : List Char := "<br/>".toList

/-- Writes the characters that have a meaning in HTML by their names. -/
def escapeHtml (cs : List Char) : List Char :=
  cs.flatMap fun c =>
    match c with
    | '&' => "&amp;".toList
    | '<' => "&lt;".toList
    | '>' => "&gt;".toList
    | '"' => "&quot;".toList
    | '\'' => "&#x27;".toList
    | _ => [c]

end ModuleDocs.Text
