import ModuleDocs.Proofs.Place

/-! # Resources that only check something

A resource says by its identifier that it only checks something (`Resource.checks`). Resources are sorted by the names
they are shown by (`Declarations.sortedResources`), and a name has the identifier in it only if the settings ask for
that. So they are sorted by their identifiers only where identifiers are shown, or where none of them says that its
resource only checks something (`sortedResources_byIdentifier_iff`). -/
set_option autoImplicit false

namespace ModuleDocs.Hcl

/-! ## Identifiers in names -/

theorem isPrefix_of_append_cons {α : Type} {c : α} {w t i : List α} (hw : c ∉ w) (h : w <+: t ++ c :: i) : w <+: t := by
  rcases Nat.lt_or_ge t.length w.length with hlen | hlen
  · -- A longer word would reach the entry in the middle.
    have hmid : t ++ [c] <+: t ++ c :: i := ⟨i, by simp⟩
    have hreach : t ++ [c] <+: w := List.prefix_of_prefix_length_le hmid h (by simp; omega)
    exact absurd (hreach.subset (List.mem_append_right t (List.mem_singleton_self c))) hw
  · exact List.prefix_of_prefix_length_le h (List.prefix_append _ _) hlen

/-- A word behind a dot stands in a text or at the start of what follows the text and a dot. -/
theorem cons_infix_append_cons_iff {α : Type} {c : α} {w t i : List α} (hw : c ∉ w) (hi : c ∉ i) :
    c :: w <:+: t ++ c :: i ↔ c :: w <:+: t ∨ w <+: i := by
  induction t with
  | nil =>
    have hnone : ¬ c :: w <:+: i := fun h => hi (h.subset List.mem_cons_self)
    rw [List.nil_append, List.infix_cons_iff, List.prefix_cons_inj, or_iff_left hnone, List.infix_nil]
    simp
  | cons d t ih =>
    rw [List.cons_append, List.infix_cons_iff, List.infix_cons_iff, ih, or_assoc]
    refine or_congr_left ?_
    rw [List.cons_prefix_cons, List.cons_prefix_cons]
    refine and_congr_right fun _ => ⟨isPrefix_of_append_cons hw, fun h => ?_⟩
    exact h.trans (List.prefix_append _ _)

theorem namesValidationResource_dotted {type identifier : String} (hdot : '.' ∉ identifier.toList) :
    NamesValidationResource (type ++ "." ++ identifier) ↔
      NamesValidationResource type ∨ NamesValidationOutput identifier := by
  have htext : (type ++ "." ++ identifier).toList = type.toList ++ ('.' :: identifier.toList) := by
    simp
  have hvalidate : '.' ∉ "validate_".toList := by decide
  have hvalidation : '.' ∉ "validation_".toList := by decide
  rw [NamesValidationResource, htext]
  refine (or_congr (cons_infix_append_cons_iff hvalidate hdot) (cons_infix_append_cons_iff hvalidation hdot)).trans ?_
  exact or_or_or_comm

/-! ## Sorted resources -/

/-- The identifier of the resource says that it only checks something. -/
def Resource.checks (r : Resource) : Bool := r.instances.head?.any fun i => NamesValidationOutput i.1

/-- The entries of the resources that are taken to only check something, and those of the others. -/
def Declarations.sortedResources (d : Declarations) (addIdentifier : Bool) :
    Except Error (List (Entry ResourceFields) × List (Entry ResourceFields)) := do
  let all ← d.resources.mapM (Resource.entry addIdentifier)
  return (all.filter fun e => isValidationResource e.name, all.filter fun e => !isValidationResource e.name)

/-- The two tables of resources in an inventory are made of the sorted resources. -/
theorem fileInventory_sorted {settings : Settings} {file : Path} {text : String} {d : Declarations} {inv : Inventory}
    (h : fileInventory settings file text d = .ok inv) :
    ∃ sorted, d.sortedResources settings.format.addResourceIdentifier = .ok sorted ∧
      tableOf "validation_resource" false file text sorted.1 = .ok inv.validationResources ∧
      tableOf "resource" (!settings.format.addResourceIdentifier) file text sorted.2 = .ok inv.resources := by
  simp only [fileInventory, bind_eq_ok, pure_eq_ok] at h
  obtain ⟨_, -, all, hall, locals, -, inputs, -, outputs, -, validationOutputs, -, validationResources,
    hvalidationResources, resources, hresources, rfl⟩ := h
  exact ⟨_, bind_eq_ok.mpr ⟨all, hall, rfl⟩, hvalidationResources, hresources⟩

/-- The sorted resources are those whose identifiers say that they only check something, and the others. -/
structure Declarations.SortedByIdentifier (d : Declarations) (addIdentifier : Bool)
    (sorted : List (Entry ResourceFields) × List (Entry ResourceFields)) : Prop where
  checks : (d.resources.filter (·.checks)).mapM (Resource.entry addIdentifier) = .ok sorted.1
  others : (d.resources.filter (!·.checks)).mapM (Resource.entry addIdentifier) = .ok sorted.2

section Resource
variable {r : Resource} {i : String × ResourceFields}

theorem Resource.entry_singleton (hr : r.instances = [i]) (addIdentifier : Bool) :
    r.entry addIdentifier = .ok ⟨r.shownName addIdentifier i.1, i.2, r.find⟩ := by
  rw [Resource.entry, Resource.identified, hr]
  rfl

theorem Resource.checks_singleton (hr : r.instances = [i]) : r.checks = decide (NamesValidationOutput i.1) := by
  rw [Resource.checks, hr]
  rfl

/-- The name of a resource says the same as its identifier, unless its type says it only checks something, or its
identifier says so and is not shown. -/
theorem isValidationResource_shownName_iff (r : Resource) (addIdentifier : Bool) (hdot : '.' ∉ i.1.toList) :
    isValidationResource (r.shownName addIdentifier i.1) = decide (NamesValidationOutput i.1) ↔
      (NamesValidationResource r.type → NamesValidationOutput i.1) ∧
        (NamesValidationOutput i.1 → addIdentifier = true ∨ NamesValidationResource r.type) := by
  rw [isValidationResource_eq, decide_eq_decide]
  cases addIdentifier with
  | false =>
    rw [Resource.shownName, if_neg Bool.false_ne_true]
    simp [iff_def]
  | true =>
    rw [Resource.shownName, if_pos rfl, namesValidationResource_dotted hdot]
    simp

end Resource

/-- Resources with one identifier each, which has no dot, are sorted by what their identifiers say exactly if every
type that has the mark of a check in it belongs to such an identifier, and every such identifier is shown, or its type
has the mark as well. Both tables of resources are made of the resources so sorted. -/
theorem sortedResources_byIdentifier_iff {d : Declarations} (hparsed : d.IsParsed)
    (hdot : ∀ r ∈ d.resources, ∀ i ∈ r.instances, '.' ∉ i.1.toList) (settings : Settings) :
    ∃ sorted, d.sortedResources settings.format.addResourceIdentifier = .ok sorted ∧
      (d.SortedByIdentifier settings.format.addResourceIdentifier sorted ↔
        ∀ r ∈ d.resources, (NamesValidationResource r.type → r.checks = true) ∧
          (r.checks = true → settings.format.addResourceIdentifier = true ∨ NamesValidationResource r.type)) ∧
      ∀ file text inv, fileInventory settings file text d = .ok inv →
        tableOf "validation_resource" false file text sorted.1 = .ok inv.validationResources ∧
        tableOf "resource" (!settings.format.addResourceIdentifier) file text sorted.2 = .ok inv.resources := by
  have hone : ∀ r ∈ d.resources, ∃ i, r.instances = [i] := fun r hr => List.length_eq_one_iff.mp (hparsed r hr)
  obtain ⟨all, hall⟩ : ∃ all, d.resources.mapM (Resource.entry settings.format.addResourceIdentifier) = .ok all := by
    have : Inhabited (Entry ResourceFields) := ⟨⟨"", ⟨[]⟩, fun _ => .ok []⟩⟩
    refine exists_mapM_eq_ok.mpr fun r hr => ?_
    obtain ⟨i, hi⟩ := hone r hr
    exact ⟨_, r.entry_singleton hi _⟩
  have hsorted : d.sortedResources settings.format.addResourceIdentifier = .ok
      (all.filter fun e => isValidationResource e.name, all.filter fun e => !isValidationResource e.name) :=
    bind_eq_ok.mpr ⟨all, hall, rfl⟩
  refine ⟨_, hsorted, ?_, fun file text inv h => ?_⟩
  · have hhalves := mapM_filter_iff (p := Resource.checks) (q := fun e => isValidationResource e.name) hall
    refine Iff.trans ⟨fun h => ⟨h.checks, h.others⟩, fun h => ⟨h.1, h.2⟩⟩ (hhalves.trans ?_)
    refine forall₂_congr fun r hr => ?_
    obtain ⟨i, hi⟩ := hone r hr
    have hname := isValidationResource_shownName_iff r settings.format.addResourceIdentifier
      (hdot r hr i (by simp [hi]))
    simpa [r.entry_singleton hi, r.checks_singleton hi] using hname
  · obtain ⟨sorted', hsorted', htables⟩ := fileInventory_sorted h
    obtain rfl := Except.ok.inj (hsorted.symm.trans hsorted')
    exact htables

/-- Two resources of one type, of which one says that it only checks something. -/
def twoResources : Declarations where
  resources := [⟨"null_resource", [("validate_x", ⟨[]⟩)]⟩, ⟨"null_resource", [("revalidate_x", ⟨[]⟩)]⟩]

/-- With their identifiers shown, the two resources are sorted by them. -/
theorem sortedResources_byIdentifier_shown :
    ∃ sorted, twoResources.sortedResources true = .ok sorted ∧ twoResources.SortedByIdentifier true sorted ∧
      sorted.1.map (·.name) = ["null_resource.validate_x"] := by
  obtain ⟨sorted, hsorted, hiff, -⟩ := sortedResources_byIdentifier_iff (d := twoResources) (by decide) (by decide) {}
  refine ⟨sorted, hsorted, hiff.mpr (by decide), ?_⟩
  cases hsorted
  decide

/-- Without them, the resource `validate_x` is among the others. -/
theorem sortedResources_not_byIdentifier :
    ∃ sorted, twoResources.sortedResources false = .ok sorted ∧ ¬ twoResources.SortedByIdentifier false sorted ∧
      sorted.1.map (·.name) = [] ∧ sorted.2.map (·.name) = ["null_resource", "null_resource"] := by
  refine ⟨_, rfl, fun h => ?_, by decide, by decide⟩
  have hlength := length_of_mapM h.checks
  revert hlength
  decide

end ModuleDocs.Hcl
