import ModuleDocs.Text.Search

/-! # Cutting a text at a character

The pieces of a text between the places of a character, joined by that character, are the text again
(`intercalate_splitOn`); pieces without the character that are joined by it are found again
(`splitOn_intercalate`). -/
set_option autoImplicit false

namespace ModuleDocs.Text

section Split
variable {sep : Char}

theorem splitOn_cons_self (cs : List Char) : splitOn [sep] (sep :: cs) = [] :: splitOn [sep] cs := by
  unfold splitOn
  rw [splitSkipping, if_pos (by simp)]
  rfl

theorem splitOn_cons_of_ne {c : Char} (hc : c ≠ sep) (cs : List Char) :
    splitOn [sep] (c :: cs) = consFirst c (splitOn [sep] cs) := by
  unfold splitOn
  rw [splitSkipping, if_neg (by simpa using Ne.symm hc)]

theorem splitOn_of_notMem {piece : List Char} (h : sep ∉ piece) : splitOn [sep] piece = [piece] := by
  induction piece with
  | nil => rfl
  | cons c piece ih =>
    rw [List.mem_cons, not_or] at h
    rw [splitOn_cons_of_ne (Ne.symm h.1), ih h.2, consFirst]

theorem splitOn_append {piece : List Char} (h : sep ∉ piece) (cs : List Char) :
    splitOn [sep] (piece ++ sep :: cs) = piece :: splitOn [sep] cs := by
  induction piece with
  | nil => exact splitOn_cons_self cs
  | cons c piece ih =>
    rw [List.mem_cons, not_or] at h
    rw [List.cons_append, splitOn_cons_of_ne (Ne.symm h.1), ih h.2, consFirst]

theorem splitOn_intercalate {pieces : List (List Char)} (hne : pieces ≠ []) (h : ∀ piece ∈ pieces, sep ∉ piece) :
    splitOn [sep] ([sep].intercalate pieces) = pieces := by
  induction pieces with
  | nil => exact absurd rfl hne
  | cons piece pieces ih =>
    rw [List.forall_mem_cons] at h
    cases pieces with
    | nil => rw [List.intercalate_singleton, splitOn_of_notMem h.1]
    | cons next pieces =>
      rw [List.intercalate_cons_cons, List.append_assoc, List.singleton_append, splitOn_append h.1,
        ih (List.cons_ne_nil _ _) h.2]

theorem intercalate_splitOn (cs : List Char) :
    splitOn [sep] cs ≠ [] ∧ [sep].intercalate (splitOn [sep] cs) = cs := by
  induction cs with
  | nil => exact ⟨List.cons_ne_nil _ _, List.intercalate_singleton⟩
  | cons c cs ih =>
    obtain ⟨hne, ih⟩ := ih
    by_cases hc : c = sep
    · subst hc
      rw [splitOn_cons_self]
      refine ⟨List.cons_ne_nil _ _, ?_⟩
      rw [List.intercalate_cons_of_ne_nil hne, ih]
      rfl
    · rw [splitOn_cons_of_ne hc]
      cases hsplit : splitOn [sep] cs with
      | nil => exact absurd hsplit hne
      | cons first more =>
        rw [hsplit] at ih
        refine ⟨List.cons_ne_nil _ _, ?_⟩
        rw [consFirst, ← ih]
        cases more with
        | nil => rw [List.intercalate_singleton, List.intercalate_singleton]
        | cons next more => rw [List.intercalate_cons_cons, List.intercalate_cons_cons]; rfl

theorem of_mem_splitOn {cs piece : List Char} (h : piece ∈ splitOn [sep] cs) : sep ∉ piece ∧ piece ⊆ cs := by
  induction cs generalizing piece with
  | nil =>
    obtain rfl := List.mem_singleton.mp h
    exact ⟨List.not_mem_nil, List.nil_subset _⟩
  | cons c cs ih =>
    by_cases hc : c = sep
    · subst hc
      rw [splitOn_cons_self, List.mem_cons] at h
      obtain rfl | h := h
      · exact ⟨List.not_mem_nil, List.nil_subset _⟩
      · exact ⟨(ih h).1, List.subset_cons_of_subset c (ih h).2⟩
    · rw [splitOn_cons_of_ne hc] at h
      cases hsplit : splitOn [sep] cs with
      | nil => exact absurd hsplit (intercalate_splitOn cs).1
      | cons first more =>
        rw [hsplit, consFirst, List.mem_cons] at h
        rw [hsplit] at ih
        obtain rfl | h := h
        · obtain ⟨hfirst, hsubset⟩ := ih List.mem_cons_self
          exact ⟨by simp [hfirst, Ne.symm hc], List.cons_subset_cons c hsubset⟩
        · obtain ⟨hpiece, hsubset⟩ := ih (List.mem_cons_of_mem _ h)
          exact ⟨hpiece, List.subset_cons_of_subset c hsubset⟩

theorem length_splitOn (cs : List Char) : (splitOn [sep] cs).length = cs.count sep + 1 := by
  induction cs with
  | nil => rfl
  | cons c cs ih =>
    by_cases hc : c = sep
    · subst hc
      rw [splitOn_cons_self, List.length_cons, ih, List.count_cons_self]
    · rw [splitOn_cons_of_ne hc, List.count_cons_of_ne hc, ← ih]
      cases hsplit : splitOn [sep] cs with
      | nil => exact absurd hsplit (intercalate_splitOn cs).1
      | cons first more => rfl

end Split

/-! ## Characters of pieces -/

section Pieces
variable {x : Char} {sep : List Char}

theorem flatten_consFirst (c : Char) (pieces : List (List Char)) :
    (consFirst c pieces).flatten = c :: pieces.flatten := by
  cases pieces <;> rfl

theorem flatten_splitSkipping_sublist (sep : List Char) (skip : Nat) (cs : List Char) :
    (splitSkipping sep skip cs).flatten.Sublist cs := by
  induction cs generalizing skip with
  | nil => cases skip <;> exact List.Sublist.refl _
  | cons c cs ih =>
    cases skip with
    | succ skip => exact (ih skip).cons c
    | zero =>
      rw [splitSkipping]
      split
      · exact (ih _).cons c
      · rw [flatten_consFirst]
        exact (ih 0).cons_cons c

theorem mem_flatten_splitSkipping (hsep : sep ≠ []) (hx : x ∉ sep) {skip : Nat} {cs : List Char}
    (hskip : x ∉ cs.take skip) (h : x ∈ cs) : x ∈ (splitSkipping sep skip cs).flatten := by
  induction cs generalizing skip with
  | nil => cases h
  | cons c cs ih =>
    cases skip with
    | succ skip =>
      rw [List.take_succ_cons, List.mem_cons, not_or] at hskip
      exact ih hskip.2 ((List.mem_cons.mp h).resolve_left hskip.1)
    | zero =>
      rw [splitSkipping]
      split
      · next hprefix =>
        obtain ⟨d, rest, rfl⟩ := List.exists_cons_of_ne_nil hsep
        obtain ⟨rfl, hrest⟩ := List.cons_prefix_cons.mp (List.isPrefixOf_iff_prefix.mp hprefix)
        rw [List.mem_cons, not_or] at hx
        have htake : cs.take rest.length = rest := (List.prefix_iff_eq_take.mp hrest).symm
        refine ih ?_ ((List.mem_cons.mp h).resolve_left hx.1)
        rw [List.length_cons, Nat.add_sub_cancel, htake]
        exact hx.2
      · rw [flatten_consFirst, List.mem_cons]
        exact (List.mem_cons.mp h).imp_right (ih (by simp))

theorem mem_flatten_splitOn (hsep : sep ≠ []) (hx : x ∉ sep) {cs : List Char} :
    x ∈ (splitOn sep cs).flatten ↔ x ∈ cs :=
  ⟨fun h => (flatten_splitSkipping_sublist sep 0 cs).subset h, mem_flatten_splitSkipping hsep hx List.not_mem_nil⟩

theorem mem_intercalate (hx : x ∉ sep) {pieces : List (List Char)} :
    x ∈ sep.intercalate pieces ↔ x ∈ pieces.flatten := by
  induction pieces with
  | nil => rfl
  | cons piece pieces ih =>
    cases pieces with
    | nil => rw [List.intercalate_singleton, List.flatten_singleton]
    | cons next more =>
      rw [List.intercalate_cons_cons, List.mem_append, List.mem_append, or_iff_left hx, ih, ← List.mem_append,
        ← List.flatten_cons]

theorem mem_of_mem_replaceAll {old new cs : List Char} (hnew : x ∉ new) (h : x ∈ replaceAll old new cs) : x ∈ cs :=
  (flatten_splitSkipping_sublist old 0 cs).subset ((mem_intercalate hnew).mp h)

theorem mem_replaceAll {old new cs : List Char} (hne : old ≠ []) (hold : x ∉ old) (hnew : x ∉ new) :
    x ∈ replaceAll old new cs ↔ x ∈ cs := by
  rw [replaceAll, mem_intercalate hnew, mem_flatten_splitOn hne hold]

end Pieces

/-! ## Joined pieces -/

theorem intercalate_cons_eq (sep x : List Char) (q : List (List Char)) :
    sep.intercalate (x :: q) = x ++ q.flatMap (sep ++ ·) := by
  induction q generalizing x with
  | nil => rw [List.intercalate_singleton, List.flatMap_nil, List.append_nil]
  | cons y q ih => rw [List.intercalate_cons_cons, ih, List.flatMap_cons, List.append_assoc, List.append_assoc]

/-- Joined pieces, seen from some of them that follow each other. -/
theorem intercalate_around (sep : List Char) (p : List (List Char)) {q : List (List Char)} (hq : q ≠ [])
    (r : List (List Char)) :
    sep.intercalate (p ++ (q ++ r)) = p.flatMap (· ++ sep) ++ (sep.intercalate q ++ r.flatMap (sep ++ ·)) := by
  induction p with
  | nil =>
    obtain ⟨x, q, rfl⟩ := List.exists_cons_of_ne_nil hq
    rw [List.nil_append, List.cons_append, intercalate_cons_eq, intercalate_cons_eq, List.flatMap_append,
      List.flatMap_nil, List.nil_append, List.append_assoc]
  | cons y p ih =>
    have hne : p ++ (q ++ r) ≠ [] := by simp [hq]
    rw [List.cons_append, List.intercalate_cons_of_ne_nil hne, ih, List.flatMap_cons]
    simp only [List.append_assoc]

theorem dropPrefix?_eq_some {piece cs rest : List Char} : dropPrefix? piece cs = some rest ↔ cs = piece ++ rest := by
  unfold dropPrefix?
  split
  · next h =>
    obtain ⟨tail, rfl⟩ := List.isPrefixOf_iff_prefix.mp h
    rw [List.drop_left, Option.some.injEq, List.append_right_inj, eq_comm]
  · next h =>
    constructor
    · intro e
      cases e
    · rintro rfl
      exact absurd (List.isPrefixOf_iff_prefix.mpr (List.prefix_append piece rest)) h

end ModuleDocs.Text
