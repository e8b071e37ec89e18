import ModuleDocs.Hcl.Data
import ModuleDocs.Replace
import ModuleDocs.Text.Blank
import ModuleDocs.Text.Html
import ModuleDocs.Text.Lines
import ModuleDocs.Text.Search

/-!
# Descriptions and conditions in cells

A description becomes one line: its lines are trimmed and joined by line breaks, and its list lines become
a list. The messages of conditions become a list as well.
-/
set_option autoImplicit false

namespace ModuleDocs.Description

open ModuleDocs.Text

def itemStart : List Char := "<li>".toList

def itemEnd : List Char := "</li>".toList

def listStart : List Char := "<ul>".toList

def listEnd : List Char := "</ul>".toList

/-- A line `- x` as a list item. -/
def listLine : List Char → List Char
  | '-' :: ' ' :: c :: rest => itemStart ++ c :: rest ++ itemEnd
  | line => line

/-- Puts a list around the text from the first start of an item to the last end of one. -/
def wrapList (cs : List Char) : List Char :=
  match findFirst? itemStart cs, findLast? itemEnd cs with
  | some first, some last =>
    if first + itemStart.length < last then
      cs.take first ++ listStart ++ (cs.take (last + itemEnd.length)).drop first ++ listEnd ++
        cs.drop (last + itemEnd.length)
    else cs
  | _, _ => cs

def layout (description : List Char) : List Char :=
  let items := (lines description).map fun line => listLine (trim line)
  replaceAll (itemEnd ++ lineBreak) itemEnd (wrapList (List.intercalate lineBreak items))

end ModuleDocs.Description

namespace ModuleDocs

def Settings.description (s : Settings) (description : String) : Except Error String :=
  if description = "" then .ok ""
  else s.replaceIn .description (String.ofList (Description.layout description.toList))

def Settings.conditions (s : Settings) (column : TextColumn) (conditions : List Hcl.Validation) :
    Except Error String := do
  if conditions.isEmpty then return ""
  let messages ← conditions.mapM fun c => s.replaceIn column c.errorMessage
  return "<ul>" ++ String.join (messages.map fun m => "<li>" ++ m ++ "</li>") ++ "</ul>"

end ModuleDocs
