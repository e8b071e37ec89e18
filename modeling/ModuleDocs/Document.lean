import ModuleDocs.Sheet

/-!
# The generated document

A heading, and a section with a table for each kind of item that is to be shown and of which there is one.
-/
set_option autoImplicit false

namespace ModuleDocs

/-- The marks of a heading; below the first level there are none. -/
def headingMarks (level : Int) : String := String.ofList (List.replicate level.toNat '#')

/-- A section: its heading and its table, which can be folded if that is asked for. -/
def sectionOf {α : Type} (settings : Settings) (m : RowModel α) (name : String) (skip : List String)
    (items : Hcl.ItemTable α) : Except Error String := do
  if items.isEmpty then return ""
  let table ← formatItems settings m skip items
  let folds := settings.format.collapsibleSections
  return (if folds then "<details>\n<summary>" ++ name ++ "</summary>\n\n" else "") ++
    headingMarks settings.targetConfig.headingLevel ++ "# " ++ name ++ "\n\n" ++ table ++
    (if folds then "\n</details>\n" else "") ++ "\n\n"

/-- The sections on variables: those that must be given may come first. -/
def variableSections (settings : Settings) (items : Hcl.ItemTable Hcl.VariableFields) :
    Except Error String := do
  if settings.format.requiredVariablesFirst then
    let required ← sectionOf settings variableRow "Required Variables" ["default"]
      (items.filter (·.2.data.isRequired))
    let optional ← sectionOf settings variableRow "Optional Variables" []
      (items.filter (!·.2.data.isRequired))
    return required ++ optional
  else sectionOf settings variableRow "Variables" [] items

def formatModule (settings : Settings) (inv : Hcl.Inventory) : Except Error String := do
  let format := settings.format
  let on := fun (shown : Bool) (text : Except Error String) => if shown then text else .ok ""
  settings.ensure .outputFormat
  match settings.targetConfig.format with
  | .other name => .error (.invalidFormat name)
  | .markdown =>
    settings.ensure .headingLevel
    settings.ensure .tableFormat
    let resources ← on format.includeResources <|
      sectionOf settings resourceRow "Resources" ["precondition", "postcondition"] inv.resources
    let locals ← on format.includeLocals <| sectionOf settings localRow "Locals" [] inv.locals
    let inputs ← on format.includeVariables <| variableSections settings inv.inputs
    let outputs ← on format.includeOutputs <|
      sectionOf settings outputRow "Outputs" (if format.addOutputValue then [] else ["value"]) inv.outputs
    let validationOutputs ← on format.includeValidations <|
      sectionOf settings outputRow "Validation Outputs" ["description", "value"] inv.validationOutputs
    let validationResources ← on format.includeValidations <|
      sectionOf settings resourceRow "Validation Resources" ["provider", "documentation"]
        inv.validationResources
    return headingMarks settings.targetConfig.headingLevel ++ " " ++ settings.targetConfig.heading ++
      "\n\n<!-- markdownlint-disable -->\n" ++ resources ++ locals ++ inputs ++ outputs ++
      validationOutputs ++ validationResources ++ "<!-- markdownlint-enable -->\n"

end ModuleDocs
