import ModuleDocs.Description
import ModuleDocs.Hcl.Module
import ModuleDocs.Hcl.Property

/-!
# Rows

The fields of an item that a table shows, each with the text of its cell.
-/
set_option autoImplicit false

namespace ModuleDocs

open ModuleDocs.Text

/-- A field of some kind of item: its name, and the text of an item in it. -/
structure Field (α : Type) where
  name : String
  cell : Settings → String → Hcl.Item α → Except Error String

/-- The fields of a kind of item in order, with a label for the kind of row. -/
structure RowModel (α : Type) where
  label : String
  fields : List (Field α)

/-- The title of a column: its name with a capital letter. -/
def titleOf (name : String) : String :=
  match name.toList with
  | [] => ""
  | c :: rest => String.ofList (c.toUpper :: rest)

namespace Row

/-! ## Cells of all kinds of items -/

def link (settings : Settings) (name : String) (file : Path) (loc : Int) : Except Error String := do
  settings.ensure .moduleRoot
  match file.relativeTo? settings.modulePath with
  | none => .error .outsideModule
  | some path =>
    return "<a href=\"/" ++ path.text ++ "#L" ++ toString loc ++ "\" name=\"" ++ name ++ "\">" ++ name ++ "</a>"

def nameField (α : Type) : Field α := ⟨"name", fun s name item => link s name item.file item.loc⟩

def property (settings : Settings) (column : TextColumn) (block : String) : Except Error String := do
  let text ← settings.replaceIn column (← Hcl.findProperty block column.name)
  return "<pre>" ++ String.ofList (replaceAll ['\n'] lineBreak text.toList) ++ "</pre>"

/-! ## Resources -/

def splitUnderscore? (cs : List Char) : Option (List Char × List Char) :=
  let first := cs.takeWhile (· ≠ '_')
  match cs.drop first.length with
  | [] => none
  | _ :: rest => some (first, rest)

/-- The provider of a resource, as its name has it. -/
def provider (name : String) : String := String.ofList (name.toList.takeWhile (· ≠ '_'))

def documentation (name : String) : Except Error String :=
  match splitUnderscore? (name.toList.takeWhile (· ≠ '.')) with
  | none => .error .noProvider
  | some (provider, type) =>
    let type := String.ofList type
    .ok <| "[" ++ type ++ "](https://registry.terraform.io/providers/hashicorp/" ++ String.ofList provider ++
      "/latest/docs/resources/" ++ type ++ ")"

end Row

open Row

def resourceRow : RowModel Hcl.ResourceFields where
  label := "ResourceRow"
  fields :=
    [nameField _,
      ⟨"provider", fun _ name _ => .ok (provider name)⟩,
      ⟨"documentation", fun _ name _ => documentation name⟩,
      ⟨"precondition", fun s _ item => do s.conditions .precondition (← item.data.precondition)⟩,
      ⟨"postcondition", fun s _ item => do s.conditions .postcondition (← item.data.postcondition)⟩]

def localRow : RowModel Hcl.LocalFields where
  label := "LocalRow"
  fields := [nameField _]

def variableRow : RowModel Hcl.VariableFields where
  label := "VariableRow"
  fields :=
    [nameField _,
      ⟨"type", fun s _ item => property s .type item.block⟩,
      ⟨"description", fun s _ item => s.description item.data.description⟩,
      ⟨"default", fun s _ item =>
        if item.data.isRequired then .ok "**required**" else property s .default item.block⟩,
      ⟨"validation", fun s _ item => s.conditions .validation item.data.validation⟩]

def outputRow : RowModel Hcl.OutputFields where
  label := "OutputRow"
  fields :=
    [nameField _,
      ⟨"description", fun s _ item => s.description item.data.description⟩,
      ⟨"value", fun s _ item => property s .value item.block⟩,
      ⟨"precondition", fun s _ item => s.conditions .precondition item.data.precondition⟩,
      ⟨"postcondition", fun s _ item => s.conditions .postcondition item.data.postcondition⟩]

/-! ## Kinds of items -/

inductive ItemKind where
  | resources
  | locals
  | inputs
  | outputs
deriving Repr, DecidableEq

def ItemKind.ofName? : String → Option ItemKind
  | "resource" => some .resources
  | "locals" => some .locals
  | "variable" => some .inputs
  | "output" => some .outputs
  | _ => none

def ItemKind.rowLabel : ItemKind → String
  | .resources => resourceRow.label
  | .locals => localRow.label
  | .inputs => variableRow.label
  | .outputs => outputRow.label

/-- The label of the rows of a class of values, if it is one of the kinds of items. -/
def rowLabel (kind : Option ItemKind) (className : String) : Except Error String :=
  match kind with
  | some kind => .ok kind.rowLabel
  | none => .error (.noRowModel className)

end ModuleDocs
