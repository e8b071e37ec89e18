import ModuleDocs.Proofs.Success
import ModuleDocs.Sheet

/-! # Kinds of rows

What the rows of all kinds of items have in common: the first field is the link to the item, and different
fields have different titles. Links are never empty, and those of different names differ (`link_injective`). -/
set_option autoImplicit false

namespace ModuleDocs

/-! ## Kinds -/

/-- What is documented of an item of some kind. -/
abbrev ItemKind.Fields : ItemKind → Type
  | .resources => Hcl.ResourceFields
  | .locals => Hcl.LocalFields
  | .inputs => Hcl.VariableFields
  | .outputs => Hcl.OutputFields

/-- The rows that items of some kind are shown in. -/
def ItemKind.rowModel : (kind : ItemKind) → RowModel kind.Fields
  | .resources => resourceRow
  | .locals => localRow
  | .inputs => variableRow
  | .outputs => outputRow

/-- Rows that start with the link to their item, and whose fields have different titles. -/
structure RowModel.IsLinked {α : Type} (m : RowModel α) : Prop where
  name_first : m.fields.head? = some (Row.nameField α)
  nodup_titles : (m.fields.map fun f => titleOf f.name).Nodup

theorem ItemKind.isLinked (kind : ItemKind) : kind.rowModel.IsLinked := by
  cases kind
  all_goals exact ⟨rfl, by decide +kernel⟩

section Shown
variable {α : Type} {m : RowModel α} {skip : List String}

/-- If the name is shown, it comes first. -/
theorem RowModel.IsLinked.shown_eq (h : m.IsLinked) (hname : "name" ∉ skip) :
    ∃ rest, m.shown skip = Row.nameField α :: rest := by
  obtain ⟨rest, hrest⟩ := List.head?_eq_some_iff.mp h.name_first
  refine ⟨rest.filter fun f => !skip.contains f.name, ?_⟩
  have hkeep : (!skip.contains (Row.nameField α).name) = true := by
    simpa [Row.nameField] using hname
  rw [RowModel.shown, hrest, List.filter_cons, if_pos hkeep]

theorem RowModel.IsLinked.nodup_shown (h : m.IsLinked) :
    ((m.shown skip).map fun f => titleOf f.name).Nodup :=
  h.nodup_titles.sublist (List.filter_sublist.map _)

end Shown

/-! ## Links -/

theorem link_eq_ok {settings : Settings} {name : String} {file : Path} {loc : Int} {text : String}
    (h : Row.link settings name file loc = .ok text) :
    ∃ start : String, text.toList =
      "<a href=\"/".toList ++ start.toList ++ "\" name=\"".toList ++ name.toList ++ "\">".toList ++
        name.toList ++ "</a>".toList := by
  obtain ⟨-, -, h⟩ := bind_eq_ok.mp h
  split at h
  · cases h
  · rename_i path _
    cases h
    exact ⟨path.text ++ "#L" ++ toString loc, by simp [String.toList_append, List.append_assoc]⟩

theorem link_ne_empty {settings : Settings} {name : String} {file : Path} {loc : Int} {text : String}
    (h : Row.link settings name file loc = .ok text) : text ≠ "" := by
  obtain ⟨start, e⟩ := link_eq_ok h
  rintro rfl
  have hlen := congrArg List.length e
  simp at hlen

theorem eq_of_append_cons_eq {α : Type} {c : α} {a a' b b' : List α} (hb : c ∉ b) (hb' : c ∉ b')
    (h : a ++ c :: b = a' ++ c :: b') : b = b' := by
  rcases List.append_eq_append_iff.mp h with ⟨mid, -, hmid⟩ | ⟨mid, -, hmid⟩
  · cases mid with
    | nil => exact (List.cons.inj hmid).2
    | cons d mid =>
      have htail : b = mid ++ c :: b' := (List.cons.inj hmid).2
      exact absurd (htail ▸ List.mem_append_right mid List.mem_cons_self) hb
  · cases mid with
    | nil => exact (List.cons.inj hmid).2.symm
    | cons d mid =>
      have htail : b' = mid ++ c :: b := (List.cons.inj hmid).2
      exact absurd (htail ▸ List.mem_append_right mid List.mem_cons_self) hb'

/-- The name in a link is what follows the last quote, so links of different names without quotes differ. -/
theorem link_injective {settings : Settings} {name name' : String} {file file' : Path} {loc loc' : Int}
    {text : String} (hname : '"' ∉ name.toList) (hname' : '"' ∉ name'.toList)
    (h : Row.link settings name file loc = .ok text) (h' : Row.link settings name' file' loc' = .ok text) :
    name = name' := by
  obtain ⟨start, e⟩ := link_eq_ok h
  obtain ⟨start', e'⟩ := link_eq_ok h'
  have hcut : ∀ n : String, '"' ∉ n.toList → '"' ∉ '>' :: (n.toList ++ "</a>".toList) := by
    intro n hn hm
    rw [List.mem_cons, List.mem_append] at hm
    rcases hm with hm | hm | hm
    · exact absurd hm (by decide)
    · exact hn hm
    · exact absurd hm (by decide)
  have hsplit : ∀ (n : String) (u v : List Char),
      u ++ n.toList ++ "\">".toList ++ n.toList ++ v = (u ++ n.toList) ++ '"' :: '>' :: (n.toList ++ v) := by
    intro n u v
    simp
  rw [hsplit] at e e'
  have hrest := eq_of_append_cons_eq (hcut name hname) (hcut name' hname') (e.symm.trans e')
  exact String.toList_injective (List.append_cancel_right (List.cons.inj hrest).2)

end ModuleDocs
