import ModuleDocs.Proofs.Literal
import ModuleDocs.Proofs.LocalPlace

/-! # Closing brackets that close nothing

A scan ends with what it has read, with a report of brackets that do not match, or at a closing bracket that it comes
to outside strings while none is open (`MeetsStray`); there is no other way (`scanValue_cases`). The names of here
documents have word characters only, in every state that a scan can be in, so no bracket is taken for such a name.
Where no here document opens, a stray bracket can be seen in the text: it stands in the value, outside strings, behind
brackets that are well nested (`meetsStray_iff`). -/
set_option autoImplicit false

namespace ModuleDocs.Hcl

open ModuleDocs.Text

/-! ## Steps -/

/-- The name of the here document that a scan is in has word characters only. -/
def Scan.HasWordName (s : Scan) : Prop := ∀ name ∈ s.heredoc, ∀ c ∈ name, isWord c = true

theorem Scan.hasWordName_start : Scan.HasWordName {} := by
  intro name hname
  cases hname

theorem isWord_of_heredocStart? {cs name : List Char} {n : Nat} (h : heredocStart? cs = some (n, name)) :
    ∀ c ∈ name, isWord c = true := by
  unfold heredocStart? at h
  split at h
  · next rest =>
    dsimp only at h
    generalize (if (rest.head? == some '-') = true then rest.tail else rest) = named at h
    by_cases hempty : (named.takeWhile isWord).isEmpty = true
    · rw [if_pos hempty] at h
      cases h
    · rw [if_neg hempty] at h
      cases h
      exact fun c hc => List.mem_takeWhile_imp hc
  · cases h

theorem of_isClosing {c : Char} (h : isClosing c = true) : isWord c = false ∧ c ≠ '"' ∧ c ≠ '<' ∧ c ≠ '\n' := by
  unfold isClosing opening? at h
  split at h
  · decide
  · decide
  · decide
  · cases h

section Steps
variable {property : String} {s : Scan} {c : Char} {rest : List Char}

theorem Scan.HasWordName.atHeredocEnd_eq_none (h : s.HasWordName) (hc : isClosing c = true) :
    s.atHeredocEnd (c :: rest) = none := by
  obtain ⟨hword, -, -, hnewline⟩ := of_isClosing hc
  unfold Scan.atHeredocEnd
  split
  · rfl
  · next name hname =>
    have hstart : (name ++ ['\n']).isPrefixOf (c :: rest) = false := by
      rw [← Bool.not_eq_true, List.isPrefixOf_iff_prefix]
      intro hstart
      cases name with
      | nil => exact hnewline (List.cons_prefix_cons.mp hstart).1.symm
      | cons d name =>
        obtain rfl := (List.cons_prefix_cons.mp hstart).1
        cases hword.symm.trans (h (d :: name) hname d List.mem_cons_self)
    rw [hstart, Bool.and_false, if_neg Bool.false_ne_true]

/-- A closing bracket outside strings has to close the last one that is open, in a here document too. -/
theorem Scan.HasWordName.step_closing (h : s.HasWordName) (hc : isClosing c = true) (hout : s.quoted = false) :
    s.step property c rest = s.close property c := by
  obtain ⟨-, hquote, hsign, -⟩ := of_isClosing hc
  unfold Scan.step
  simp only [beq_eq_false_iff_ne.mpr hquote, beq_eq_false_iff_ne.mpr hsign, Bool.false_and, Bool.false_eq_true,
    if_false, h.atHeredocEnd_eq_none hc, isOpening_eq_false hc, hc, Bool.not_false, Bool.true_and, hout, if_true]
  unfold Scan.close
  cases s.brackets with
  | nil => rfl
  | cons last outer => rw [hout]

variable (property) (rest) in
theorem Scan.exists_step (h : (isClosing c && !s.quoted) = false) : ∃ step, s.step property c rest = .ok step := by
  unfold Scan.step
  dsimp only
  split
  · exact ⟨_, rfl⟩
  split
  · exact ⟨_, rfl⟩
  split
  · exact ⟨_, rfl⟩
  split
  · exact ⟨_, rfl⟩
  rw [h, if_neg Bool.false_ne_true]
  split
  · exact ⟨_, rfl⟩
  · exact ⟨_, rfl⟩

/-- A step fails only at a closing bracket outside strings, and the open brackets say how. -/
theorem Scan.HasWordName.step_eq_error (h : s.HasWordName) {e : Error} (hstep : s.step property c rest = .error e) :
    isClosing c = true ∧ s.quoted = false ∧
      (s.brackets = [] ∧ e = .strayBracket ∨ s.brackets ≠ [] ∧ e = .unmatchedBrackets property) := by
  have hclosing : (isClosing c && !s.quoted) = true := by
    rw [← Bool.not_eq_false]
    intro hother
    obtain ⟨step, hok⟩ := Scan.exists_step property rest hother
    cases hstep.symm.trans hok
  rw [Bool.and_eq_true, Bool.not_eq_true'] at hclosing
  refine ⟨hclosing.1, hclosing.2, ?_⟩
  rw [h.step_closing hclosing.1 hclosing.2, Scan.close] at hstep
  cases hbrackets : s.brackets with
  | nil =>
    rw [hbrackets] at hstep
    cases hstep
    exact .inl ⟨rfl, rfl⟩
  | cons last outer =>
    rw [hbrackets] at hstep
    dsimp only at hstep
    split at hstep
    · cases hstep
    · cases hstep
      exact .inr ⟨List.cons_ne_nil last outer, rfl⟩

/-- A step leaves the open here document, closes it, or opens one with the name behind its sign. -/
theorem Scan.HasWordName.step (h : s.HasWordName) {step : Step} (hstep : s.step property c rest = .ok step) :
    step.state.HasWordName := by
  unfold Scan.step at hstep
  dsimp only at hstep
  split at hstep
  · cases hstep
    exact h
  split at hstep
  · next length name hstart =>
    cases hstep
    rintro _ ⟨⟩
    split at hstart
    · exact isWord_of_heredocStart? hstart
    · cases hstart
  split at hstep
  · cases hstep
    rintro _ ⟨⟩
  split at hstep
  · cases hstep
    exact h
  split at hstep
  · split at hstep
    · cases hstep
    · split at hstep
      · cases hstep
        exact h
      · cases hstep
  split at hstep
  · cases hstep
    exact h
  · cases hstep
    exact h

end Steps

/-! ## Runs -/

/-- A scan comes to a closing bracket outside strings while none is open. -/
def Scan.MeetsStray (property : String) (s : Scan) (cs : List Char) : Prop :=
  ∃ i s', scanAt? property s cs i = some s' ∧ s'.skip = 0 ∧ s'.quoted = false ∧ s'.brackets = [] ∧
    cs[i]?.any isClosing = true

section Runs
variable {property : String} {s : Scan} {c : Char} {cs rest : List Char}

theorem Scan.not_meetsStray_nil : ¬ s.MeetsStray property [] := by
  rintro ⟨i, s', -, -, -, -, hc⟩
  cases hc

theorem Scan.meetsStray_cons_of_skip {skip : Nat} (hskip : s.skip = skip + 1) :
    s.MeetsStray property (c :: rest) ↔ Scan.MeetsStray property { s with skip, last := c } rest := by
  constructor
  · rintro ⟨i, s', hs', hzero, h⟩
    cases i with
    | zero =>
      cases hs'
      omega
    | succ i =>
      rw [scanAt?, hskip] at hs'
      exact ⟨i, s', hs', hzero, h⟩
  · rintro ⟨i, s', hs', h⟩
    refine ⟨i + 1, s', ?_, h⟩
    rw [scanAt?, hskip]
    exact hs'

/-- A stray bracket is the first character, or it is met after the step over that. -/
theorem Scan.meetsStray_cons (hskip : s.skip = 0) :
    s.MeetsStray property (c :: rest) ↔ (s.quoted = false ∧ s.brackets = [] ∧ isClosing c = true) ∨
      ∃ step, s.step property c rest = .ok step ∧ step.done = false ∧ step.state.MeetsStray property rest := by
  constructor
  · rintro ⟨i, s', hs', h⟩
    cases i with
    | zero =>
      cases hs'
      exact .inl h.2
    | succ i =>
      rw [scanAt?, hskip] at hs'
      dsimp only at hs'
      split at hs'
      · cases hs'
      · next step hstep =>
        split at hs'
        · cases hs'
        · next hdone => exact .inr ⟨step, hstep, Bool.eq_false_iff.mpr hdone, i, s', hs', h⟩
  · rintro (⟨hquoted, hbrackets, hc⟩ | ⟨step, hstep, hdone, i, s', hs', h⟩)
    · exact ⟨0, s, rfl, hskip, hquoted, hbrackets, hc⟩
    · refine ⟨i + 1, s', ?_, h⟩
      rw [scanAt?, hskip]
      simp only [hstep, hdone, Bool.false_eq_true, if_false]
      exact hs'

/-- After a step that succeeds, a stray bracket can only stand behind it. -/
theorem Scan.HasWordName.meetsStray_cons_of_step (h : s.HasWordName) (hskip : s.skip = 0) {step : Step}
    (hstep : s.step property c rest = .ok step) :
    s.MeetsStray property (c :: rest) ↔ step.done = false ∧ step.state.MeetsStray property rest := by
  have hnot : ¬ (s.quoted = false ∧ s.brackets = [] ∧ isClosing c = true) := by
    rintro ⟨hquoted, hbrackets, hc⟩
    rw [h.step_closing hc hquoted, Scan.close, hbrackets] at hstep
    cases hstep
  rw [Scan.meetsStray_cons hskip, or_iff_right hnot, hstep]
  constructor
  · rintro ⟨_, ⟨rfl⟩, hmeets⟩
    exact hmeets
  · exact fun hmeets => ⟨step, rfl, hmeets⟩

variable (property) (cs) in
/-- A scan fails at a stray bracket, or at a bracket of another kind than the open one, or comes to its end. -/
theorem scanValue_cases (h : s.HasWordName) :
    (s.MeetsStray property cs ∧ scanValue property s cs = .error .strayBracket) ∨
      (¬ s.MeetsStray property cs ∧ (scanValue property s cs = .error (.unmatchedBrackets property) ∨
        ∃ read stack, scanValue property s cs = .ok (read, stack))) := by
  induction cs generalizing s with
  | nil => exact .inr ⟨Scan.not_meetsStray_nil, .inr ⟨_, _, rfl⟩⟩
  | cons c rest ih =>
    cases hskip : s.skip with
    | succ skip =>
      have hscan : scanValue property s (c :: rest) = scanValue property { s with skip, last := c } rest := by
        rw [scanValue, hskip]
      rw [Scan.meetsStray_cons_of_skip hskip, hscan]
      exact ih h
    | zero =>
      rw [scanValue_cons hskip]
      cases hstep : s.step property c rest with
      | error e =>
        obtain ⟨hc, hquoted, ⟨hnil, rfl⟩ | ⟨hopen, rfl⟩⟩ := h.step_eq_error hstep
        · exact .inl ⟨(Scan.meetsStray_cons hskip).mpr (.inl ⟨hquoted, hnil, hc⟩), rfl⟩
        · refine .inr ⟨?_, .inl rfl⟩
          rw [Scan.meetsStray_cons hskip, hstep]
          rintro (⟨-, hnil, -⟩ | ⟨step, hok, -⟩)
          · exact hopen hnil
          · cases hok
      | ok step =>
        rw [h.meetsStray_cons_of_step hskip hstep, ok_bind]
        cases hdone : step.done with
        | true =>
          refine .inr ⟨?_, .inr ⟨_, _, if_pos rfl⟩⟩
          rintro ⟨hgoes, -⟩
          cases hgoes
        | false =>
          rw [and_iff_right rfl, if_neg Bool.false_ne_true]
          obtain ⟨hmeets, hscan⟩ | ⟨hmeets, hscan | ⟨read, stack, hscan⟩⟩ := ih (h.step hstep)
          · exact .inl ⟨hmeets, by rw [hscan]; rfl⟩
          · exact .inr ⟨hmeets, .inl (by rw [hscan]; rfl)⟩
          · exact .inr ⟨hmeets, .inr ⟨_, _, by rw [hscan]; rfl⟩⟩

end Runs

/-! ## Values without here documents -/

section Positions
variable {property : String} {cs : List Char} {i : Nat}

theorem scanAt?_zero (s : Scan) : scanAt? property s cs 0 = some s := by rw [scanAt?]

theorem scanAt?_succ {s : Scan} (hi : i ≤ cs.length) :
    scanAt? property s cs (i + 1) = (scanAt? property s cs i).bind (scanAt? property · (cs.drop i) 1) := by
  have h := @scanAt?_append property s (cs.take i) (cs.drop i) 1
  rwa [List.take_append_drop, List.length_take_of_le hi] at h

theorem le_length_of_scanAt? {s s' : Scan} (h : scanAt? property s cs i = some s') : i ≤ cs.length := by
  induction i generalizing s cs with
  | zero => exact Nat.zero_le _
  | succ i ih =>
    cases cs with
    | nil => cases h
    | cons c rest =>
      rw [scanAt?] at h
      split at h
      · exact Nat.succ_le_succ (ih h)
      · split at h
        · cases h
        · split at h
          · cases h
          · exact Nat.succ_le_succ (ih h)

/-- Where no here document opens, the state in which a scan comes to a position says what the text before it does, and
no value has ended there. -/
theorem reads_of_scanAt? (hno : ∀ j < valueExtent cs, ¬ OpensHeredoc cs j) {s : Scan}
    (h : scanAt? property {} cs i = some s) : s.Reads cs i ∧ ∀ j ≤ i, ¬ EndsValue cs j := by
  induction i generalizing s with
  | zero =>
    rw [scanAt?_zero, Option.some.injEq] at h
    subst h
    refine ⟨Scan.reads_start cs, fun j hj => ?_⟩
    obtain rfl := Nat.le_zero.mp hj
    exact fun hends => hends
  | succ i ih =>
    have hi := le_length_of_scanAt? h
    rw [scanAt?_succ (by omega), Option.bind_eq_some_iff] at h
    obtain ⟨before, hbefore, hlast⟩ := h
    obtain ⟨hreads, hends⟩ := ih hbefore
    obtain ⟨c, rest, hrest⟩ : ∃ c rest, cs.drop i = c :: rest :=
      List.exists_cons_of_ne_nil fun hnil => by have := List.drop_eq_nil_iff.mp hnil; omega
    rw [hrest, scanAt?, hreads.skip] at hlast
    obtain ⟨s', hstep, hs'⟩ | ⟨⟨e, hstep⟩, -⟩ := hreads.step property hrest (hno i (lt_valueExtent hi hends))
    · rw [hstep] at hlast
      dsimp only at hlast
      split at hlast
      · cases hlast
      · next hdone =>
        rw [scanAt?_zero, Option.some.injEq] at hlast
        subst hlast
        refine ⟨hs', fun j hj => ?_⟩
        obtain hj | rfl := Nat.le_succ_iff.mp hj
        · exact hends j hj
        · simpa using hdone
    · rw [hstep] at hlast
      cases hlast

variable (property) in
/-- A scan comes to every position up to which brackets close each other and no value ends. -/
theorem exists_scanAt? (hno : ∀ j < valueExtent cs, ¬ OpensHeredoc cs j) (hi : i ≤ cs.length)
    (hends : ∀ j ≤ i, ¬ EndsValue cs j) (hopen : openAfter (bracketsBefore cs i) ≠ none) :
    ∃ s, scanAt? property {} cs i = some s := by
  induction i with
  | zero => exact ⟨_, scanAt?_zero _⟩
  | succ i ih =>
    obtain ⟨s, hs⟩ := ih (by omega) (fun j hj => hends j (by omega))
      fun hnone => hopen (openAfter_eq_none_of_le hnone (Nat.le_succ i))
    obtain ⟨c, rest, hrest⟩ : ∃ c rest, cs.drop i = c :: rest :=
      List.exists_cons_of_ne_nil fun hnil => by have := List.drop_eq_nil_iff.mp hnil; omega
    have hreads := (reads_of_scanAt? hno hs).1
    rw [scanAt?_succ (by omega), hs, Option.bind_some, hrest, scanAt?, hreads.skip]
    obtain ⟨s', hstep, -⟩ | ⟨-, hnone⟩ :=
      hreads.step property hrest (hno i (lt_valueExtent hi fun j hj => hends j (by omega)))
    · rw [hstep, decide_eq_false (hends (i + 1) (Nat.le_refl _))]
      exact ⟨s', scanAt?_zero s'⟩
    · exact absurd hnone hopen

/-- Where no here document opens in a value, a stray bracket is one in the value, outside strings, with brackets before
it that are well nested. -/
theorem meetsStray_iff (hno : ∀ j < valueExtent cs, ¬ OpensHeredoc cs j) :
    Scan.MeetsStray property {} cs ↔ ∃ i < valueExtent cs, ¬ InString cs i ∧ WellNested (bracketsBefore cs i) ∧
      cs[i]?.any isClosing = true := by
  constructor
  · rintro ⟨i, s, hs, -, hquoted, hbrackets, hc⟩
    obtain ⟨hreads, hends⟩ := reads_of_scanAt? hno hs
    have hi : i < cs.length := by
      by_contra hi
      rw [List.getElem?_eq_none (by omega)] at hc
      cases hc
    refine ⟨i, lt_valueExtent hi hends, ?_, ?_, hc⟩
    · rw [← decide_eq_false_iff_not, ← hreads.quoted, hquoted]
    · rw [wellNested_iff, hreads.brackets, hbrackets]
  · rintro ⟨i, hi, hout, hnested, hc⟩
    rw [wellNested_iff] at hnested
    have hlength : i < cs.length := by
      by_contra hlength
      rw [List.getElem?_eq_none (by omega)] at hc
      cases hc
    obtain ⟨s, hs⟩ := exists_scanAt? property hno (Nat.le_of_lt hlength)
      (fun j hj => not_endsValue_of_lt (by omega)) (by rw [hnested]; simp)
    have hreads := (reads_of_scanAt? hno hs).1
    have hbrackets := hreads.brackets
    rw [hnested] at hbrackets
    exact ⟨i, s, hs, hreads.skip, hreads.quoted.trans (decide_eq_false hout), (Option.some.inj hbrackets).symm, hc⟩

end Positions

/-! ## Properties -/

theorem AssignedAt.exists_isChosen {name cs : List Char} (hname : isPlainName name = true) (m : AssignedAt name cs) :
    ∃ m : AssignedAt name cs, m.IsChosen := by
  cases hleast : leastIndented? (assignmentsFrom name true 0 cs) with
  | none =>
    have hmem := m.mem hname
    rw [firstLeast?_eq_none.mp hleast] at hmem
    cases hmem
  | some a =>
    rw [leastIndented?, ← List.filterMap_some (l := assignmentsFrom name true 0 cs)] at hleast
    obtain ⟨_, hmem, ⟨rfl⟩, hfirst⟩ := exists_of_firstLeast?_filterMap (pairwise_assignmentsFrom _ _ true 0) hleast
    obtain ⟨m', rfl⟩ := exists_assignedAt_of_mem hmem
    exact ⟨m', AssignedAt.isChosen_of_forall hname fun b hb => hfirst b hb b rfl⟩

/-- A property is found, or its brackets are reported. -/
def IsFoundOrReported (text property : String) : Prop :=
  (∃ value, findProperty text property = .ok value) ∨
    ∃ e, findProperty text property = .error e ∧ e.message? = some s!"Unmatched brackets in {property} block"

section Found
variable {property text : String} {m : AssignedAt property.toList text.toList}

theorem AssignedAt.findProperty_of_meetsStray (hname : isPlainName property.toList = true) (hm : m.IsChosen)
    (h : Scan.MeetsStray property {} m.text) : findProperty text property = .error .strayBracket := by
  obtain ⟨-, hscan⟩ | ⟨hnot, -⟩ := scanValue_cases property m.text Scan.hasWordName_start
  · rw [m.findProperty_eq hname hm, hscan]
    rfl
  · exact absurd h hnot

theorem AssignedAt.isFoundOrReported (hname : isPlainName property.toList = true) (hm : m.IsChosen)
    (h : ¬ Scan.MeetsStray property {} m.text) : IsFoundOrReported text property := by
  have hfound := m.findProperty_eq hname hm
  obtain ⟨hmeets, -⟩ | ⟨-, hscan | ⟨read, stack, hscan⟩⟩ := scanValue_cases property m.text Scan.hasWordName_start
  · exact absurd hmeets h
  · exact .inr ⟨.unmatchedBrackets property, by rw [hfound, hscan]; rfl, rfl⟩
  · cases stack with
    | cons => exact .inr ⟨.unmatchedBrackets property, by rw [hfound, hscan]; rfl, rfl⟩
    | nil =>
      obtain ⟨rest, hrest⟩ : ∃ rest, dropAssignment property read = .ok rest := ⟨_, if_pos hname⟩
      refine .inl ⟨String.ofList (trim rest), ?_⟩
      rw [hfound, hscan]
      simp only [bind, Except.bind, hrest]
      rfl

end Found

/-- A property that is assigned is found, or its brackets are reported, unless the scan from the chosen place on meets a
closing bracket outside strings while none is open: there it fails without a report. Where no here document opens in the
value, that is a bracket in the value, outside strings and behind brackets that are well nested. -/
theorem isFoundOrReported_iff {property text : String} (hname : isIdentifier property = true)
    (m : AssignedAt property.toList text.toList) :
    ∃ m : AssignedAt property.toList text.toList, m.IsChosen ∧
      (IsFoundOrReported text property ↔ ¬ Scan.MeetsStray property {} m.text) ∧
      (Scan.MeetsStray property {} m.text → findProperty text property = .error .strayBracket) ∧
      ((∀ j < valueExtent m.text, ¬ OpensHeredoc m.text j) →
        (Scan.MeetsStray property {} m.text ↔ ∃ i < valueExtent m.text, ¬ InString m.text i ∧
          WellNested (bracketsBefore m.text i) ∧ m.text[i]?.any isClosing = true)) := by
  have hplain := isPlainName_of_isIdentifier hname
  obtain ⟨m, hm⟩ := m.exists_isChosen hplain
  have hstray := fun hmeets => m.findProperty_of_meetsStray hplain hm hmeets
  refine ⟨m, hm, ⟨fun hfound hmeets => ?_, m.isFoundOrReported hplain hm⟩, hstray, meetsStray_iff⟩
  obtain ⟨value, hvalue⟩ | ⟨e, he, hmessage⟩ := hfound
  · cases hvalue.symm.trans (hstray hmeets)
  · cases he.symm.trans (hstray hmeets)
    cases hmessage

/-- A closing bracket in a here document, of another kind than the open one. -/
theorem isFoundOrReported_mismatch :
    IsFoundOrReported "b=[\n<<E\n)\nE\n]\n" "b" ∧
      ∃ m : AssignedAt "b".toList "b=[\n<<E\n)\nE\n]\n".toList, m.IsChosen ∧ ¬ Scan.MeetsStray "b" {} m.text := by
  have hreport : findProperty "b=[\n<<E\n)\nE\n]\n" "b" = .error (.unmatchedBrackets "b") := by decide +kernel
  have hfound : IsFoundOrReported "b=[\n<<E\n)\nE\n]\n" "b" := .inr ⟨_, hreport, rfl⟩
  let m : AssignedAt "b".toList "b=[\n<<E\n)\nE\n]\n".toList :=
    ⟨[], 0, [], "[\n<<E\n)\nE\n]\n".toList, by decide, by simp, by simp⟩
  obtain ⟨m, hm, hiff, -⟩ := isFoundOrReported_iff (by decide) m
  exact ⟨hfound, m, hm, hiff.mp hfound⟩

/-- A closing bracket and nothing else is neither found nor reported. -/
theorem not_isFoundOrReported_stray :
    isIdentifier "b" = true ∧ Nonempty (AssignedAt "b".toList "b=)".toList) ∧
      findProperty "b=)" "b" = .error .strayBracket ∧ ¬ IsFoundOrReported "b=)" "b" := by
  have hstray : findProperty "b=)" "b" = .error .strayBracket := by decide +kernel
  refine ⟨by decide, ⟨⟨[], 0, [], ")".toList, by decide, by simp, by simp⟩⟩, hstray, ?_⟩
  rintro (⟨value, hvalue⟩ | ⟨e, he, hmessage⟩)
  · cases hvalue.symm.trans hstray
  · cases he.symm.trans hstray
    cases hmessage

end ModuleDocs.Hcl
