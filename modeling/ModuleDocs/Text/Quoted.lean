import ModuleDocs.Text.Printable

/-!
# Quoted text

A text between quotes, on one line and in printable characters. Single quotes are used unless the text
has a single quote and no double quote.
-/
set_option autoImplicit false

namespace ModuleDocs.Text

/-- The last `width` hexadecimal digits of a number. -/
def hexDigits : (width : Nat) → Nat → List Char
  | 0, _ => []
  | width + 1, n => hexDigits width (n / 16) ++ [Nat.digitChar (n % 16)]

def escapeChar (quote c : Char) : List Char :=
  if c = quote ∨ c = '\\' then ['\\', c]
  else if c = '\t' then ['\\', 't']
  else if c = '\n' then ['\\', 'n']
  else if c = '\r' then ['\\', 'r']
  else if isPrintable c then [c]
  else if c.toNat < 0x100 then '\\' :: 'x' :: hexDigits 2 c.toNat
  else if c.toNat < 0x10000 then '\\' :: 'u' :: hexDigits 4 c.toNat
  else '\\' :: 'U' :: hexDigits 8 c.toNat

def quoted (cs : List Char) : List Char :=
  let quote := if cs.contains '\'' && !cs.contains '"' then '"' else '\''
  quote :: cs.flatMap (escapeChar quote) ++ [quote]

end ModuleDocs.Text

namespace ModuleDocs

def quotedText (s : String) : String := String.ofList (Text.quoted s.toList)

/-- A list of strings, each between quotes. -/
def quotedList (ls : List String) : String :=
  "[" ++ ", ".intercalate (ls.map quotedText) ++ "]"

end ModuleDocs
