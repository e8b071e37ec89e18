import ModuleDocs.Proofs.Verbatim

/-! # Values up to the end of their line

A value would be whole if it went to the first line end where all is closed (`EndsLine`). A scan also stops at a bracket
that closes the last one on a later line than the first (`ClosesLast`), and what stands behind such a bracket on its
line is lost. So the whole value is found exactly if nothing but blank characters stands there
(`findProperty_wholeLine_iff`). -/
set_option autoImplicit false

namespace ModuleDocs.Hcl

open ModuleDocs.Text

/-! ## Two ways to end -/

/-- A line end outside strings, where all brackets are closed. -/
def EndsLine (cs : List Char) (i : Nat) : Prop :=
  cs[i]? = some '\n' ∧ ¬ InString cs i ∧ depthOf (bracketsBefore cs i) = 0

instance (cs : List Char) : DecidablePred (EndsLine cs) := fun i =>
  inferInstanceAs (Decidable (cs[i]? = some '\n' ∧ ¬ InString cs i ∧ depthOf (bracketsBefore cs i) = 0))

/-- A closing bracket outside strings, on a later line than the first, after which all brackets are closed. -/
def ClosesLast (cs : List Char) (i : Nat) : Prop :=
  cs[i]?.any isClosing = true ∧ ¬ InString cs i ∧ depthOf (bracketsBefore cs (i + 1)) = 0 ∧ '\n' ∈ cs.take i

instance (cs : List Char) : DecidablePred (ClosesLast cs) := fun i =>
  inferInstanceAs (Decidable (cs[i]?.any isClosing = true ∧ ¬ InString cs i ∧
    depthOf (bracketsBefore cs (i + 1)) = 0 ∧ '\n' ∈ cs.take i))

section Ends
variable {cs : List Char} {i p : Nat}

theorem bracketsBefore_succ_of_newline (h : cs[i]? = some '\n') : bracketsBefore cs (i + 1) = bracketsBefore cs i :=
  bracketsBefore_succ_of_not_bracket h rfl

theorem EndsLine.endsValue (h : EndsLine cs i) : EndsValue cs (i + 1) := by
  obtain ⟨hnewline, hout, hdepth⟩ := h
  refine ⟨hout, ?_, .inl hnewline⟩
  rw [bracketsBefore_succ_of_newline hnewline]
  exact hdepth

theorem ClosesLast.endsValue (h : ClosesLast cs i) : EndsValue cs (i + 1) := by
  obtain ⟨hclosing, hout, hdepth, hlater⟩ := h
  exact ⟨hout, hdepth, .inr ⟨hclosing, hlater⟩⟩

theorem endsLine_or_closesLast (h : EndsValue cs (i + 1)) : EndsLine cs i ∨ ClosesLast cs i := by
  obtain ⟨hout, hdepth, hnewline | ⟨hclosing, hlater⟩⟩ := h
  · rw [bracketsBefore_succ_of_newline hnewline] at hdepth
    exact .inl ⟨hnewline, hout, hdepth⟩
  · exact .inr ⟨hclosing, hout, hdepth, hlater⟩

theorem valueExtent_le (h : EndsValue cs i) : valueExtent cs ≤ i := by
  by_contra hlt
  exact not_endsValue_of_lt (by omega) h

theorem ClosesLast.exists_char (h : ClosesLast cs i) : ∃ c, cs[i]? = some c ∧ isBlank c = false := by
  obtain ⟨hclosing, -⟩ := h
  cases hc : cs[i]? with
  | none =>
    rw [hc] at hclosing
    cases hclosing
  | some c =>
    refine ⟨c, rfl, ?_⟩
    rw [hc, Option.any_some] at hclosing
    unfold isClosing opening? at hclosing
    split at hclosing <;> first | decide | cases hclosing

/-- Such a bracket is not blank, and so what stands between an earlier place and a later one is not. -/
theorem ClosesLast.exists_mem {k : Nat} (h : ClosesLast cs i) (hk : k < i) (hi : i < p) :
    ∃ c ∈ (cs.take p).drop (k + 1), isBlank c = false := by
  obtain ⟨c, hc, hblank⟩ := h.exists_char
  refine ⟨c, List.mem_of_getElem? (i := i - (k + 1)) ?_, hblank⟩
  rw [List.getElem?_drop, Nat.add_sub_cancel' hk, List.getElem?_take_of_lt hi, hc]

theorem wellNested_of_endsValue (hnested : WellNested (bracketsBefore cs p)) (hends : EndsValue cs (i + 1))
    (hle : i + 1 ≤ p) : WellNested (bracketsBefore cs (i + 1)) := by
  rw [wellNested_iff] at hnested ⊢
  cases hopen : openAfter (bracketsBefore cs (i + 1)) with
  | none =>
    rw [openAfter_eq_none_of_le hopen hle] at hnested
    cases hnested
  | some stack =>
    have hdepth := depthOf_eq hopen
    rw [hends.2.1] at hdepth
    rw [List.length_eq_zero_iff.mp (by omega : stack.length = 0)]

/-- A value ends at the first line end where all is closed, or at a bracket before it. -/
theorem EndsLine.valueExtent_cases (hline : EndsLine cs p) (hfirst : ∀ j < p, ¬ EndsLine cs j) :
    (valueExtent cs = p + 1 ∧ ∀ i < p, ¬ ClosesLast cs i) ∨
      ∃ k < p, valueExtent cs = k + 1 ∧ ClosesLast cs k ∧ ∀ i < k, ¬ ClosesLast cs i := by
  have hle : valueExtent cs ≤ p + 1 := valueExtent_le hline.endsValue
  obtain ⟨k, hextent, hends, hbefore⟩ | ⟨-, hnever⟩ := Hcl.valueExtent_cases cs
  · have hnone : ∀ i < k, ¬ ClosesLast cs i := fun i hi hcloses => hbefore (i + 1) (by omega) hcloses.endsValue
    by_cases hk : k = p
    · subst hk
      exact .inl ⟨hextent, hnone⟩
    · have hlt : k < p := by omega
      have hcloses : ClosesLast cs k := (endsLine_or_closesLast hends).resolve_left (hfirst k hlt)
      exact .inr ⟨k, hlt, hextent, hcloses, hnone⟩
  · exact absurd hline.endsValue (hnever (p + 1))

end Ends

/-! ## Trimmed texts -/

theorem trim_append_newline (front : List Char) : trim (front ++ ['\n']) = trim front := by
  have hblank : ['\n'].all isBlank = true := by decide
  rw [trim, trim, trimStart_append]
  split
  · next hall => rw [trimStart_eq_nil hblank, trimStart_eq_nil hall]
  · rw [trimEnd_append, if_pos hblank]

/-- What follows a character that is not blank is lost by trimming only if it is blank. -/
theorem trim_append_eq_iff {c : Char} (hc : isBlank c = false) (front rest : List Char) :
    trim (front ++ [c]) = trim (front ++ [c] ++ rest) ↔ ∀ d ∈ rest, isBlank d = true := by
  have htrim : ∀ more, trim (front ++ c :: more) = trimStart front ++ c :: trimEnd more := by
    intro more
    rw [trim, trimStart_append_cons hc, trimEnd_append_cons hc]
  have hnil : trimEnd [] = [] := rfl
  rw [List.append_assoc, List.singleton_append, htrim, htrim, hnil, List.append_cancel_left_eq, List.cons.injEq,
    eq_self, true_and, ← List.all_eq_true]
  constructor
  · intro hempty
    rw [← all_trimEnd, ← hempty]
    rfl
  · intro hall
    rw [trimEnd_eq, trimStart_eq_nil (by rw [List.all_reverse]; exact hall)]
    rfl

/-! ## Found values -/

section Found
variable {property text : String} {m : AssignedAt property.toList text.toList}

/-- A value in which no here document opens is found if its brackets are well nested. -/
theorem AssignedAt.findProperty_of_wellNested (hname : isPlainName property.toList = true) (hm : m.IsChosen)
    (hgap : '\n' ∉ m.gap) (hno : ∀ i < valueExtent m.text, ¬ OpensHeredoc m.text i)
    (hnested : WellNested (bracketsBefore m.text (valueExtent m.text))) :
    findProperty text property = .ok (String.ofList (trim m.valueText)) := by
  rw [wellNested_iff] at hnested
  obtain ⟨stack, hstack, hscan⟩ | ⟨hnone, -⟩ := scanValue_eq property hno
  · obtain rfl : stack = [] := Option.some.inj (hstack.symm.trans hnested)
    rw [m.take_valueExtent (m.newline_notMem_lead hname hgap)] at hscan
    rw [m.findProperty_eq hname hm, hscan]
    simp only [bind, Except.bind, m.dropAssignment_eq hname, trim_trimStart]
    rfl
  · rw [hnested] at hnone
    cases hnone

/-- The text behind the equals sign up to a place. -/
def AssignedAt.valueTo {name cs : List Char} (m : AssignedAt name cs) (i : Nat) : List Char :=
  (m.text.take i).drop m.lead.length

/-- A value that ends before the end of its line, or there, is found up to where it ends. -/
theorem AssignedAt.findProperty_valueTo (hname : isPlainName property.toList = true) (hm : m.IsChosen)
    (hgap : '\n' ∉ m.gap) (hno : ∀ i, ¬ OpensHeredoc m.text i) {k p : Nat} (hline : EndsLine m.text p)
    (hnested : WellNested (bracketsBefore m.text p)) (hk : k ≤ p) (hextent : valueExtent m.text = k + 1)
    (hends : EndsValue m.text (k + 1)) :
    findProperty text property = .ok (String.ofList (trim (m.valueTo (k + 1)))) := by
  have hline' : WellNested (bracketsBefore m.text (p + 1)) := by
    rw [bracketsBefore_succ_of_newline hline.1]
    exact hnested
  have hvalue : WellNested (bracketsBefore m.text (valueExtent m.text)) := by
    rw [hextent]
    exact wellNested_of_endsValue hline' hends (by omega)
  rw [m.findProperty_of_wellNested hname hm hgap (fun i _ => hno i) hvalue, AssignedAt.valueText, hextent,
    AssignedAt.valueTo]

theorem AssignedAt.length_lead_le (hlead : '\n' ∉ m.lead) {i : Nat} (h : '\n' ∈ m.text.take (i + 1)) :
    m.lead.length ≤ i := by
  by_contra hlt
  have htake : m.text.take (i + 1) = m.lead.take (i + 1) := List.take_append_of_le_length (by omega)
  rw [htake] at h
  exact hlead (List.mem_of_mem_take h)

theorem AssignedAt.valueTo_append {i j : Nat} (hi : m.lead.length ≤ i) (hij : i ≤ j) (hj : j ≤ m.text.length) :
    m.valueTo j = m.valueTo i ++ (m.text.take j).drop i := by
  have hsplit : m.text.take j = m.text.take i ++ (m.text.take j).drop i := by
    conv_lhs => rw [← List.take_append_drop i (m.text.take j), List.take_take, Nat.min_eq_left hij]
  have hlength : m.lead.length ≤ (m.text.take i).length := by
    rw [List.length_take]
    omega
  rw [AssignedAt.valueTo, hsplit, List.drop_append_of_le_length hlength, ← hsplit, AssignedAt.valueTo]

theorem AssignedAt.valueTo_succ {i : Nat} {c : Char} (hi : m.lead.length ≤ i) (hc : m.text[i]? = some c) :
    m.valueTo (i + 1) = m.valueTo i ++ [c] := by
  have hlength : i + 1 ≤ m.text.length := (List.getElem?_eq_some_iff.mp hc).1
  have hnil : (m.text.take i).drop i = [] := List.drop_eq_nil_of_le (List.length_take_le _ _)
  have hlast : (m.text.take (i + 1)).drop i = [c] := by
    rw [List.take_add_one, hc, Option.toList_some, List.drop_append_of_le_length, hnil, List.nil_append]
    rw [List.length_take]
    omega
  rw [m.valueTo_append hi (Nat.le_succ i) hlength, hlast]

/-- The value goes to the first line end where all is closed exactly if nothing but blank characters follows a bracket
that closes the last one on a later line. -/
theorem findProperty_wholeLine_iff (hname : isIdentifier property = true) (hno : ¬ ['<', '<'] <:+: text.toList)
    (hm : m.IsChosen) (hgap : '\n' ∉ m.gap) {p : Nat} (hline : EndsLine m.text p)
    (hfirst : ∀ j < p, ¬ EndsLine m.text j) (hnested : WellNested (bracketsBefore m.text p)) :
    findProperty text property = .ok (String.ofList (trim (m.valueTo p))) ↔
      ∀ i < p, ClosesLast m.text i → ∀ c ∈ (m.text.take p).drop (i + 1), isBlank c = true := by
  have hplain := isPlainName_of_isIdentifier hname
  have hlead := m.newline_notMem_lead hplain hgap
  have hno' : ∀ i, ¬ OpensHeredoc m.text i := by
    rw [m.eq_append] at hno
    exact not_opensHeredoc_of_absent fun h => hno (h.trans (List.suffix_append _ _).isInfix)
  have hlength : p < m.text.length := (List.getElem?_eq_some_iff.mp hline.1).1
  obtain ⟨hextent, hnone⟩ | ⟨k, hk, hextent, hcloses, hbefore⟩ := hline.valueExtent_cases hfirst
  · -- Nothing ends the value before the end of the line, which is trimmed.
    have hp : m.lead.length ≤ p := m.length_lead_le hlead ((mem_take_succ hline.1 '\n').mpr (.inr rfl))
    have hfound := m.findProperty_valueTo hplain hm hgap hno' hline hnested (Nat.le_refl p) hextent hline.endsValue
    rw [m.valueTo_succ hp hline.1, trim_append_newline] at hfound
    exact iff_of_true hfound fun i hi hcloses => absurd hcloses (hnone i hi)
  · -- The value ends at a bracket, and one that comes later is not blank.
    obtain ⟨c, hc, hblank⟩ := hcloses.exists_char
    have hlater : '\n' ∈ m.text.take (k + 1) := (mem_take_succ hc '\n').mpr (.inl hcloses.2.2.2)
    have hle : m.lead.length ≤ k := m.length_lead_le hlead hlater
    have hfound := m.findProperty_valueTo hplain hm hgap hno' hline hnested (Nat.le_of_lt hk) hextent hcloses.endsValue
    have hrest : m.valueTo p = m.valueTo (k + 1) ++ (m.text.take p).drop (k + 1) :=
      m.valueTo_append (by omega) hk (Nat.le_of_lt hlength)
    rw [hfound, hrest, Except.ok.injEq, String.ofList_inj, m.valueTo_succ hle hc, trim_append_eq_iff hblank]
    constructor
    · intro hall i hi hcloses'
      obtain hlt | rfl | hlt := Nat.lt_trichotomy i k
      · exact absurd hcloses' (hbefore i hlt)
      · exact hall
      · obtain ⟨d, hd, hd'⟩ := hcloses'.exists_mem hlt hi
        rw [hall d hd] at hd'
        cases hd'
    · intro hall
      exact hall k hk hcloses

/-- A value on more than one line, with blanks and another property behind it. -/
theorem findProperty_wholeLine_list :
    findProperty "b=[\n1]\t\nc=[\n]\n" "b" = .ok "[\n1]" := by
  let m : AssignedAt "b".toList "b=[\n1]\t\nc=[\n]\n".toList :=
    ⟨[], 0, [], "[\n1]\t\nc=[\n]\n".toList, by decide, by simp, by simp⟩
  have hm : m.IsChosen := AssignedAt.isChosen_of_forall (by decide) (by decide)
  have hline : EndsLine m.text 7 := by decide +kernel
  have hfirst : ∀ j < 7, ¬ EndsLine m.text j := by decide +kernel
  have hlast : ∀ i < 7, ClosesLast m.text i → i = 5 := by decide +kernel
  have htab : (m.text.take 7).drop 6 = ['\t'] := by decide +kernel
  have hrest : ∀ i < 7, ClosesLast m.text i → ∀ c ∈ (m.text.take 7).drop (i + 1), isBlank c = true := by
    intro i hi hcloses
    obtain rfl := hlast i hi hcloses
    rw [htab, List.forall_mem_singleton]
    decide
  have hvalue : String.ofList (trim (m.valueTo 7)) = "[\n1]" := by decide +kernel
  rw [← hvalue]
  exact (findProperty_wholeLine_iff (by decide) (by decide) hm (by decide) hline hfirst (by decide +kernel)).mpr hrest

/-- An index behind the bracket that closes a value of more than one line is cut off. -/
theorem findProperty_index_cut :
    (EndsLine "b=[\n1\n][0]\n".toList 10 ∧ (∀ j < 10, ¬ EndsLine "b=[\n1\n][0]\n".toList j) ∧
        WellNested (bracketsBefore "b=[\n1\n][0]\n".toList 10)) ∧
      "b=[\n1\n][0]\n".toList.take 10 = "b=[\n1\n][0]".toList ∧
      findProperty "b=[\n1\n][0]\n" "b" = .ok "[\n1\n]" := by
  decide +kernel

end Found

end ModuleDocs.Hcl
