import ModuleDocs.Proofs.Document

/-! # Declarations that only check something

Such outputs and resources are told by what their names start with (`Source.checks`). They are kept apart from the
others, in tables of their own (`loadModule_keepsApart`), also where the settings ask to remove them. So a module that
is to be documented without them has none in its inventory only if it declares none (`removal_iff`). -/
set_option autoImplicit false

namespace ModuleDocs.Hcl

/-! ## Checks -/

/-- The outputs of a file whose name, and the resources whose identifier, says that they only check something: the names
they are shown by, each with the table it belongs to. -/
def Source.checks (s : Source) : List (Part × String) :=
  (s.declarations.outputs.filter fun o => NamesValidationOutput o.name).map (fun o => (.validationOutputs, o.name)) ++
  s.declarations.resources.filterMap fun r =>
    (r.instances.head?.filter fun i => NamesValidationOutput i.1).map fun i =>
      (.validationResources, r.type ++ "." ++ i.1)

/-- A table for this kind of items has an item of this name. -/
def Inventory.Holds (inv : Inventory) (c : Part × String) : Prop :=
  ∃ p : Part, p.kind = c.1.kind ∧ c.2 ∈ (inv.table p).map Prod.fst

/-- A section of the document for this kind of items has a row for an item of this name. -/
def IsShown (format : FormatSettings) (inv : Inventory) (c : Part × String) : Prop :=
  ∃ s ∈ documentSections format inv, s.part.kind = c.1.kind ∧ c.2 ∈ s.items.map Prod.fst

/-- The checks are in their own tables, and no others of their kind have such names. -/
structure Inventory.KeepsApart (checks : List (Part × String)) (inv : Inventory) : Prop where
  kept : ∀ c ∈ checks, c.2 ∈ (inv.table c.1).map Prod.fst
  outputs : ∀ name ∈ inv.outputs.map Prod.fst, ¬ NamesValidationOutput name
  resources : ∀ name ∈ inv.resources.map Prod.fst, ¬ NamesValidationResource name

theorem namesValidationResource_of_identifier {identifier : String} (h : NamesValidationOutput identifier)
    (type : String) : NamesValidationResource (type ++ "." ++ identifier) := by
  have htext : (type ++ "." ++ identifier).toList = type.toList ++ ('.' :: identifier.toList) := by
    simp
  have hdot : ∀ start : List Char, start <+: identifier.toList →
      ('.' :: start) <:+: type.toList ++ ('.' :: identifier.toList) := by
    intro start hstart
    have hcons : ('.' :: start) <+: '.' :: identifier.toList := (List.prefix_cons_inj '.').mpr hstart
    exact hcons.isInfix.trans (List.suffix_append _ _).isInfix
  rw [NamesValidationResource, htext]
  exact h.imp (hdot _) (hdot _)

theorem mem_checks {s : Source} {c : Part × String} (h : c ∈ s.checks) :
    (∃ o ∈ s.declarations.outputs, NamesValidationOutput o.name ∧ c = (.validationOutputs, o.name)) ∨
      ∃ r ∈ s.declarations.resources, ∃ i rest, r.instances = i :: rest ∧ NamesValidationOutput i.1 ∧
        c = (.validationResources, r.type ++ "." ++ i.1) := by
  rw [Source.checks, List.mem_append, List.mem_map, List.mem_filterMap] at h
  obtain ⟨o, ho, rfl⟩ | ⟨r, hr, hc⟩ := h
  · rw [List.mem_filter, decide_eq_true_iff] at ho
    exact .inl ⟨o, ho.1, ho.2, rfl⟩
  · rw [Option.map_eq_some_iff] at hc
    obtain ⟨i, hi, rfl⟩ := hc
    rw [Option.filter_eq_some_iff, List.head?_eq_some_iff, decide_eq_true_iff] at hi
    obtain ⟨⟨rest, hrest⟩, hname⟩ := hi
    exact .inr ⟨r, hr, i, rest, hrest, hname, rfl⟩

/-! ## Inventories -/

section Load
variable {settings : Settings}

theorem names_of_tableOf {α : Type} {kind : String} {file : Path} {text : String} {entries : List (Entry α)}
    {table : ItemTable α} (h : tableOf kind false file text entries = .ok table) :
    table.map Prod.fst = entries.map (·.name) := by
  have hdeclared := congrArg (List.map Prod.fst) (map_declared_of_tableOf h)
  rw [List.map_map, List.map_map] at hdeclared
  exact hdeclared

/-- What a file declares is put into the tables by its name alone. -/
theorem fileInventory_keepsApart (hid : settings.format.addResourceIdentifier = true) {s : Source} {inv : Inventory}
    (h : fileInventory settings s.file s.text s.declarations = .ok inv) : inv.KeepsApart s.checks := by
  simp only [fileInventory, hid, Bool.not_true, bind_eq_ok, pure_eq_ok] at h
  obtain ⟨_, -, all, hall, locals, -, inputs, -, outputs, houtputs, validationOutputs, hvalidationOutputs,
    validationResources, hvalidationResources, resources, hresources, rfl⟩ := h
  constructor
  · intro c hc
    obtain ⟨o, ho, hname, rfl⟩ | ⟨r, hr, i, rest, hinstances, hname, rfl⟩ := mem_checks hc
    · change o.name ∈ validationOutputs.map Prod.fst
      rw [names_of_tableOf hvalidationOutputs, List.map_map]
      refine List.mem_map.mpr ⟨o, List.mem_filter.mpr ⟨ho, ?_⟩, rfl⟩
      rw [isValidation_eq, decide_eq_true hname]
    · obtain ⟨e, he, hentry⟩ := exists_mem_of_mapM hall hr
      rw [Resource.entry, Resource.identified, hinstances] at hentry
      cases hentry
      change r.type ++ "." ++ i.1 ∈ validationResources.map Prod.fst
      rw [names_of_tableOf hvalidationResources]
      refine List.mem_map.mpr ⟨_, List.mem_filter.mpr ⟨he, ?_⟩, rfl⟩
      rw [isValidationResource_eq]
      exact decide_eq_true (namesValidationResource_of_identifier hname r.type)
  · intro name hname
    rw [names_of_tableOf houtputs, List.map_map] at hname
    obtain ⟨o, ho, rfl⟩ := List.mem_map.mp hname
    have hout := (List.mem_filter.mp ho).2
    rw [isValidation_eq, Bool.not_eq_true', decide_eq_false_iff_not] at hout
    exact hout
  · intro name hname
    rw [names_of_tableOf hresources] at hname
    obtain ⟨e, he, rfl⟩ := List.mem_map.mp hname
    have hout := (List.mem_filter.mp he).2
    rw [isValidationResource_eq, Bool.not_eq_true', decide_eq_false_iff_not] at hout
    exact hout

theorem loadModule_keepsApart (hid : settings.format.addResourceIdentifier = true) {ws : Workspace} {parse : Parser}
    {inv : Inventory} (h : loadModule ws parse settings = .ok inv) :
    ∃ sources, (moduleFiles ws settings).mapM (readSource ws parse) = .ok sources ∧
      inv.KeepsApart (sources.flatMap Source.checks) := by
  obtain ⟨-, sources, hsources, invs, hinvs, rfl⟩ := loadFiles_eq_concat hid (loadFiles_of_loadModule h)
  -- A name is in a table of the module if it is in that table of one of the files.
  have hnames : ∀ p name, name ∈ ((Inventory.concat invs).table p).map Prod.fst ↔
      ∃ inv ∈ invs, name ∈ (inv.table p).map Prod.fst := by
    intro p name
    rw [Inventory.table_concat, List.map_flatMap, List.mem_flatMap]
  have hfile : ∀ inv ∈ invs, ∃ s ∈ sources, inv.KeepsApart s.checks := by
    intro inv hinv
    obtain ⟨s, hs, hload⟩ := exists_of_mem_mapM hinvs hinv
    exact ⟨s, hs, fileInventory_keepsApart hid hload⟩
  refine ⟨sources, hsources, fun c hc => ?_, fun name hname => ?_, fun name hname => ?_⟩
  · obtain ⟨s, hs, hc⟩ := List.mem_flatMap.mp hc
    obtain ⟨inv, hinv, hload⟩ := exists_mem_of_mapM hinvs hs
    exact (hnames c.1 c.2).mpr ⟨inv, hinv, (fileInventory_keepsApart hid hload).kept c hc⟩
  · obtain ⟨inv, hinv, hname⟩ := (hnames .outputs name).mp hname
    obtain ⟨s, -, hkeeps⟩ := hfile inv hinv
    exact hkeeps.outputs name hname
  · obtain ⟨inv, hinv, hname⟩ := (hnames .resources name).mp hname
    obtain ⟨s, -, hkeeps⟩ := hfile inv hinv
    exact hkeeps.resources name hname

end Load

/-! ## Documents -/

section Shown
variable {format : FormatSettings} {inv : Inventory}

theorem mem_inputSections {s : DocumentSection} {items : ItemTable VariableFields}
    (hs : s ∈ inputSections format items) : s.part = .inputs ∧ s.items.map Prod.fst ⊆ items.map Prod.fst := by
  unfold inputSections at hs
  split at hs
  · rw [List.mem_cons, List.mem_singleton] at hs
    obtain rfl | rfl := hs
    · exact ⟨rfl, (List.filter_sublist.map Prod.fst).subset⟩
    · exact ⟨rfl, (List.filter_sublist.map Prod.fst).subset⟩
  · obtain rfl := List.mem_singleton.mp hs
    exact ⟨rfl, List.Subset.refl _⟩

/-- The sections of a document show items of the inventory, and checks only if they are to be included. -/
theorem mem_documentSections {s : DocumentSection} (hs : s ∈ documentSections format inv) :
    s.items.map Prod.fst ⊆ (inv.table s.part).map Prod.fst ∧
      (s.part = .validationOutputs ∨ s.part = .validationResources → format.includeValidations = true) := by
  simp only [documentSections, List.mem_append, List.mem_ite_nil_right, List.mem_singleton] at hs
  obtain ⟨-, rfl⟩ | ⟨-, rfl⟩ | ⟨-, hs⟩ | ⟨-, rfl⟩ | ⟨hinclude, rfl⟩ | ⟨hinclude, rfl⟩ := hs
  · exact ⟨List.Subset.refl _, by simp⟩
  · exact ⟨List.Subset.refl _, by simp⟩
  · obtain ⟨part, title, skip, items, hskip⟩ := s
    obtain ⟨rfl, hitems⟩ := mem_inputSections hs
    exact ⟨hitems, by simp⟩
  · exact ⟨List.Subset.refl _, by simp⟩
  · exact ⟨List.Subset.refl _, fun _ => hinclude⟩
  · exact ⟨List.Subset.refl _, fun _ => hinclude⟩

theorem Inventory.KeepsApart.part_eq {checks : List (Part × String)} (h : inv.KeepsApart checks) {s : Source}
    {c : Part × String} (hs : c ∈ s.checks) {p : Part} (hkind : p.kind = c.1.kind)
    (hp : c.2 ∈ (inv.table p).map Prod.fst) : p = c.1 := by
  obtain ⟨o, -, hname, rfl⟩ | ⟨r, -, i, -, -, hname, rfl⟩ := mem_checks hs
  · cases p with
    | validationOutputs => rfl
    | outputs => exact absurd hname (h.outputs _ hp)
    | _ => cases hkind
  · cases p with
    | validationResources => rfl
    | resources => exact absurd (namesValidationResource_of_identifier hname r.type) (h.resources _ hp)
    | _ => cases hkind

theorem part_of_mem_checks {s : Source} {c : Part × String} (h : c ∈ s.checks) :
    c.1 = .validationOutputs ∨ c.1 = .validationResources := by
  obtain ⟨o, -, -, rfl⟩ | ⟨r, -, i, -, -, -, rfl⟩ := mem_checks h
  · exact .inl rfl
  · exact .inr rfl

/-- Whether checks are shown depends on the setting that includes them and on nothing else. -/
theorem Inventory.KeepsApart.isShown_iff {checks : List (Part × String)} (h : inv.KeepsApart checks) {s : Source}
    {c : Part × String} (hs : c ∈ s.checks) (hc : c ∈ checks) :
    IsShown format inv c ↔ format.includeValidations = true := by
  constructor
  · rintro ⟨sec, hsec, hkind, hitem⟩
    obtain ⟨hitems, hinclude⟩ := mem_documentSections hsec
    have hpart := h.part_eq hs hkind (hitems hitem)
    exact hinclude (hpart ▸ part_of_mem_checks hs)
  · intro hinclude
    have hkept := h.kept c hc
    obtain ⟨part, name⟩ := c
    obtain rfl | rfl := part_of_mem_checks hs
    · refine ⟨{ part := .validationOutputs, title := "Validation Outputs", skip := ["description", "value"]
                items := inv.validationOutputs }, ?_, rfl, hkept⟩
      simp [documentSections, hinclude]
    · refine ⟨{ part := .validationResources, title := "Validation Resources", skip := ["provider", "documentation"]
                items := inv.validationResources }, ?_, rfl, hkept⟩
      simp [documentSections, hinclude]

end Shown

/-! ## Removal -/

/-- The settings, with removal of checks asked for. -/
def removing (settings : Settings) : Settings := { settings with format.validationRemove := true }

/-- Removal removes nothing: every check that a module declares is in its inventory, and shown in its document where
checks are included. So the module is without checks in its inventory exactly if it declares none. -/
theorem removal_iff {ws : Workspace} {parse : Parser} {settings : Settings}
    (hid : settings.format.addResourceIdentifier = true) {inv : Inventory}
    (h : loadModule ws parse (removing settings) = .ok inv) :
    ∃ sources, (moduleFiles ws (removing settings)).mapM (readSource ws parse) = .ok sources ∧
      ((∀ s ∈ sources, ∀ c ∈ s.checks, ¬ inv.Holds c ∧ ¬ IsShown (removing settings).format inv c) ↔
        ∀ s ∈ sources, s.checks = []) ∧
      ∀ s ∈ sources, ∀ c ∈ s.checks, inv.Holds c ∧
        (IsShown (removing settings).format inv c ↔ settings.format.includeValidations = true) := by
  obtain ⟨sources, hsources, hkeeps⟩ := loadModule_keepsApart hid h
  have hmem : ∀ s ∈ sources, ∀ c ∈ s.checks, c ∈ sources.flatMap Source.checks :=
    fun s hs c hc => List.mem_flatMap.mpr ⟨s, hs, hc⟩
  have hholds : ∀ s ∈ sources, ∀ c ∈ s.checks, inv.Holds c :=
    fun s hs c hc => ⟨c.1, rfl, hkeeps.kept c (hmem s hs c hc)⟩
  refine ⟨sources, hsources, ⟨fun hnone s hs => ?_, fun hnone s hs c hc => ?_⟩, fun s hs c hc => ⟨?_, ?_⟩⟩
  · refine List.eq_nil_iff_forall_not_mem.mpr fun c hc => ?_
    exact (hnone s hs c hc).1 (hholds s hs c hc)
  · rw [hnone s hs] at hc
    cases hc
  · exact hholds s hs c hc
  · exact hkeeps.isShown_iff hc (hmem s hs c hc)

theorem moduleFiles_removing_checkWorkspace :
    moduleFiles checkWorkspace (removing {}) = [Path.ofText "main.tf", Path.ofText "output.tf"] :=
  moduleFiles_checkWorkspace

theorem exists_loadModule_removing : ∃ inv, loadModule checkWorkspace checkParser (removing {}) = .ok inv := by
  refine exists_of_isOk ?_
  rw [loadModule, moduleFiles_removing_checkWorkspace]
  decide +kernel

theorem removal_iff_two_files :
    ∃ inv, loadModule checkWorkspace checkParser (removing {}) = .ok inv ∧
      ∃ sources, (moduleFiles checkWorkspace (removing {})).mapM (readSource checkWorkspace checkParser) = .ok sources ∧
        ((∀ s ∈ sources, ∀ c ∈ s.checks, ¬ inv.Holds c ∧ ¬ IsShown (removing {}).format inv c) ↔
          ∀ s ∈ sources, s.checks = []) ∧
        ∀ s ∈ sources, ∀ c ∈ s.checks, inv.Holds c ∧
          (IsShown (removing {}).format inv c ↔ ({} : Settings).format.includeValidations = true) := by
  obtain ⟨inv, hinv⟩ := exists_loadModule_removing
  exact ⟨inv, hinv, removal_iff rfl hinv⟩

/-- The resource `validate_c` is in the inventory and in the document, though its removal is asked for. -/
theorem removal_keeps_resource :
    ∃ inv, loadModule checkWorkspace checkParser (removing {}) = .ok inv ∧
      (∃ s, readSource checkWorkspace checkParser (Path.ofText "main.tf") = .ok s ∧
        s.checks = [(.validationResources, "a_b.validate_c")]) ∧
      inv.Holds (.validationResources, "a_b.validate_c") ∧
      IsShown (removing {}).format inv (.validationResources, "a_b.validate_c") := by
  obtain ⟨inv, hinv⟩ := exists_loadModule_removing
  obtain ⟨s, hs, hchecks⟩ : ∃ s, readSource checkWorkspace checkParser (Path.ofText "main.tf") = .ok s ∧
      s.checks = [(.validationResources, "a_b.validate_c")] := exists_of_toOption_any (by decide +kernel)
  obtain ⟨sources, hsources, hkeeps⟩ := loadModule_keepsApart rfl hinv
  have hmain : Path.ofText "main.tf" ∈ moduleFiles checkWorkspace (removing {}) := by
    rw [moduleFiles_removing_checkWorkspace]
    exact List.mem_cons_self
  obtain ⟨s', hs', hread⟩ := exists_mem_of_mapM hsources hmain
  obtain rfl : s = s' := Except.ok.inj (hs.symm.trans hread)
  have hc : (.validationResources, "a_b.validate_c") ∈ s.checks := by
    rw [hchecks]
    exact List.mem_cons_self
  have hall := List.mem_flatMap.mpr ⟨s, hs', hc⟩
  exact ⟨inv, hinv, ⟨s, hs, hchecks⟩, ⟨_, rfl, hkeeps.kept _ hall⟩, (hkeeps.isShown_iff hc hall).mpr rfl⟩

end ModuleDocs.Hcl
