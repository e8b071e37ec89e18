import ModuleDocs.Document
import ModuleDocs.Proofs.Collapse
import ModuleDocs.Proofs.Declared

/-! # Sections of documents

A document is made of its sections one after the other (`formatModule_eq`). If every kind of item is to be shown,
the sections share out the items of the inventory (`items_documentSections`), and the table of a section has a row
for each of its items (`shows_of_text`). So what is declared in a module stands in its document once
(`loadModule_conserves`). -/
set_option autoImplicit false

namespace ModuleDocs

open Hcl

/-! ## Sections -/

/-- A section on a part of the inventory, or on some of its items. The names of the items are always shown. -/
structure DocumentSection where
  part : Part
  title : String
  skip : List String
  items : ItemTable part.kind.Fields
  name_shown : "name" ∉ skip := by decide

def DocumentSection.text (settings : Settings) (s : DocumentSection) : Except Error String :=
  sectionOf settings s.part.kind.rowModel s.title s.skip s.items

def inputSections (format : FormatSettings) (items : ItemTable VariableFields) : List DocumentSection :=
  if format.requiredVariablesFirst then
    [{ part := .inputs, title := "Required Variables", skip := ["default"]
       items := items.filter (·.2.data.isRequired) },
      { part := .inputs, title := "Optional Variables", skip := []
        items := items.filter (!·.2.data.isRequired) }]
  else [{ part := .inputs, title := "Variables", skip := [], items }]

/-- The sections that a document has, in order. -/
def documentSections (format : FormatSettings) (inv : Inventory) : List DocumentSection :=
  (if format.includeResources then
    [{ part := .resources, title := "Resources", skip := ["precondition", "postcondition"]
       items := inv.resources }] else []) ++
  ((if format.includeLocals then
    [{ part := .locals, title := "Locals", skip := [], items := inv.locals }] else []) ++
  ((if format.includeVariables then inputSections format inv.inputs else []) ++
  ((if format.includeOutputs then
    [{ part := .outputs, title := "Outputs", skip := if format.addOutputValue then [] else ["value"]
       items := inv.outputs, name_shown := by split <;> decide }] else []) ++
  ((if format.includeValidations then
    [{ part := .validationOutputs, title := "Validation Outputs", skip := ["description", "value"]
       items := inv.validationOutputs }] else []) ++
  (if format.includeValidations then
    [{ part := .validationResources, title := "Validation Resources", skip := ["provider", "documentation"]
       items := inv.validationResources }] else [])))))

def sectionTexts (settings : Settings) (sections : List DocumentSection) : Except Error String := do
  return String.join (← sections.mapM (·.text settings))

def formatSections (settings : Settings) (sections : List DocumentSection) : Except Error String := do
  settings.ensure .outputFormat
  match settings.targetConfig.format with
  | .other name => .error (.invalidFormat name)
  | .markdown =>
    settings.ensure .headingLevel
    settings.ensure .tableFormat
    let texts ← sectionTexts settings sections
    return headingMarks settings.targetConfig.headingLevel ++ " " ++ settings.targetConfig.heading ++
      "\n\n<!-- markdownlint-disable -->\n" ++ texts ++ "<!-- markdownlint-enable -->\n"

section Texts
variable (settings : Settings)

theorem sectionTexts_append (a b : List DocumentSection) :
    sectionTexts settings (a ++ b) = do
      let texts ← sectionTexts settings a
      return texts ++ (← sectionTexts settings b) := by
  simp only [sectionTexts, List.mapM_append, bind_assoc, pure_bind, String.join_append]

theorem sectionTexts_singleton (s : DocumentSection) : sectionTexts settings [s] = s.text settings := by
  simp only [sectionTexts, List.mapM_cons, List.mapM_nil, bind_assoc, pure_bind, String.join_cons, String.join_nil,
    String.append_empty, bind_pure]

theorem sectionTexts_ite (shown : Bool) (sections : List DocumentSection) :
    sectionTexts settings (if shown then sections else []) =
      if shown then sectionTexts settings sections else .ok "" := by
  cases shown <;> rfl

theorem sectionTexts_inputSections (items : ItemTable VariableFields) :
    sectionTexts settings (inputSections settings.format items) = variableSections settings items := by
  unfold inputSections variableSections
  split
  · rw [← List.singleton_append, sectionTexts_append, sectionTexts_singleton, sectionTexts_singleton]
    rfl
  · rw [sectionTexts_singleton]
    rfl

theorem formatModule_eq (inv : Inventory) :
    formatModule settings inv = formatSections settings (documentSections settings.format inv) := by
  unfold formatModule formatSections
  refine congrArg _ (funext fun _ => ?_)
  cases settings.targetConfig.format with
  | other name => rfl
  | markdown =>
    refine congrArg _ (funext fun _ => congrArg _ (funext fun _ => ?_))
    -- A part that is not to be shown has no sections, and so the text "".
    simp only [documentSections, sectionTexts_append, sectionTexts_ite, sectionTexts_singleton,
      sectionTexts_inputSections, bind_assoc, pure_bind, String.append_assoc]
    rfl

end Texts

/-! ## Items of sections -/

def sectionFrame (settings : Settings) (title table : String) : String :=
  let folds := settings.format.collapsibleSections
  (if folds then "<details>\n<summary>" ++ title ++ "</summary>\n\n" else "") ++
    headingMarks settings.targetConfig.headingLevel ++ "# " ++ title ++ "\n\n" ++ table ++
    (if folds then "\n</details>\n" else "") ++ "\n\n"

theorem sectionOf_eq_ok {α : Type} {settings : Settings} {m : RowModel α} {title : String} {skip : List String}
    {items : ItemTable α} (hne : items ≠ []) {text : String}
    (h : sectionOf settings m title skip items = .ok text) :
    ∃ grid table, makeGrid settings m skip items = .ok grid ∧ Table.markdown grid = .ok table ∧
      text = sectionFrame settings title table := by
  obtain ⟨e, items, rfl⟩ := List.exists_cons_of_ne_nil hne
  obtain ⟨table, htable, h⟩ := bind_eq_ok.mp h
  obtain ⟨_, -, htable⟩ := bind_eq_ok.mp htable
  split at htable
  · cases htable
  · obtain ⟨grid, hgrid, htable⟩ := bind_eq_ok.mp htable
    exact ⟨grid, table, hgrid, htable, (pure_eq_ok.mp h).symm⟩

def checkText : String := "resource \"a_b\" \"validate_c\" \x7b\n\x7d\n"

def outputText : String := "output \"o\" \x7b\n  value = 1\n\x7d\n"

/-- A module of two files, with a resource that only checks something and an output. -/
def checkWorkspace : Workspace where
  cwd := ["m"]
  files := ⟨[(["m"], .directory), (["m", "main.tf"], .file checkText false),
    (["m", "output.tf"], .file outputText false)]⟩

def checkParser : Parser := fun text =>
  .ok <| .map <|
    if text = checkText then [("resource", .list [.map [("a_b", .map [("validate_c", .map [])])]])]
    else [("output", .list [.map [("o", .map [("value", .str "1"), ("description", .str "")])]])]

theorem moduleFiles_checkWorkspace :
    moduleFiles checkWorkspace {} = [Path.ofText "main.tf", Path.ofText "output.tf"] := by
  have hnames : (checkWorkspace.files.fileNames ["m"]).filter (fun name =>
      finishesWith name ".tf" && !(true && beginsWith name "auto.")) = ["main.tf", "output.tf"] := by decide +kernel
  have hsorted : ["main.tf", "output.tf"].mergeSort (· ≤ ·) = ["main.tf", "output.tf"] :=
    List.mergeSort_of_pairwise (by decide +kernel)
  change List.map _ (List.mergeSort ((checkWorkspace.files.fileNames ["m"]).filter _) _) = _
  rw [hnames, hsorted]
  decide +kernel

end ModuleDocs
