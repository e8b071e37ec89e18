import ModuleDocs.Proofs.PropertyValue

/-! # Texts between quotes

A scan that enters a string at a quote comes out of it at the next one in the same state, whatever stands between the
two, as long as that has no quotes, backslashes or line ends (`Scan.IsOutside.scanValue_literal`). Nor does it change
where the property is assigned (`exists_assignedAt_literal`). So another text between the quotes gives the same value
with the other text in it, or the same error (`findProperty_withLiteral`). -/
set_option autoImplicit false

namespace ModuleDocs.Hcl

open ModuleDocs.Text

/-! ## Positions of a scan -/

/-- The state in which a scan comes to a position, if it neither ends nor fails before. -/
def scanAt? (property : String) (s : Scan) : List Char → Nat → Option Scan
  | _, 0 => some s
  | [], _ + 1 => none
  | c :: rest, i + 1 =>
    match s.skip with
    | skip + 1 => scanAt? property { s with skip := skip, last := c } rest i
    | 0 =>
      match s.step property c rest with
      | .error _ => none
      | .ok step => if step.done then none else scanAt? property step.state rest i

/-- A scan is outside strings at a position, and in one at the next. -/
def EntersString (property : String) (cs : List Char) (i : Nat) : Prop :=
  (∃ s, scanAt? property {} cs i = some s ∧ s.quoted = false) ∧
    ∃ s, scanAt? property {} cs (i + 1) = some s ∧ s.quoted = true

/-- A text that may stand between quotes as it is. -/
def IsLiteral (cs : List Char) : Prop := ∀ c ∈ cs, c ≠ '"' ∧ c ≠ '\\' ∧ c ≠ '\n'

/-- A text with something between quotes in it. -/
def withLiteral (front literal rest : List Char) : String := String.ofList (front ++ '"' :: (literal ++ '"' :: rest))

/-- A scan outside here documents that has nothing to pass over. -/
structure Scan.IsPlain (s : Scan) : Prop where
  heredoc : s.heredoc = none
  skip : s.skip = 0

/-- A scan outside strings that a quote would put into one. -/
structure Scan.IsOutside (s : Scan) : Prop extends s.IsPlain where
  quoted : s.quoted = false
  escaped : s.escaped = false

section Scans
variable {property : String} {s s' : Scan} {front rest : List Char}

theorem scanAt?_cons {c : Char} (h : s.IsPlain) (i : Nat) :
    scanAt? property s (c :: rest) (i + 1) =
      match s.step property c rest with
      | .error _ => none
      | .ok step => if step.done then none else scanAt? property step.state rest i := by
  rw [scanAt?, h.skip]

theorem scanAt?_append (front rest : List Char) (n : Nat) :
    scanAt? property s (front ++ rest) (front.length + n) =
      (scanAt? property s (front ++ rest) front.length).bind (scanAt? property · rest n) := by
  induction front generalizing s with
  | nil =>
    rw [List.nil_append, List.length_nil, Nat.zero_add, scanAt?, Option.bind_some]
  | cons c front ih =>
    rw [List.cons_append, List.length_cons, Nat.add_right_comm, scanAt?, scanAt?]
    split
    · exact ih
    · split
      · rfl
      · split
        · rfl
        · exact ih

/-! ## Up to the quote -/

theorem heredocStart?_quote {c : Char} (hno : ¬ ['<', '<'] <:+: c :: front) (rest : List Char) :
    heredocStart? (c :: (front ++ '"' :: rest)) = none := by
  apply heredocStart?_eq_none
  intro hsign
  obtain ⟨hc, hnext⟩ := List.cons_prefix_cons.mp hsign
  cases front with
  | nil =>
    have hquote : '<' = '"' := (List.cons_prefix_cons.mp hnext).1
    cases hquote
  | cons d front =>
    have hd : '<' = d := (List.cons_prefix_cons.mp hnext).1
    rw [← hc, ← hd] at hno
    exact hno ⟨[], front, rfl⟩

theorem Scan.IsPlain.of_step (h : s.IsPlain) {c : Char} {step : Step}
    (hno : (if c == '<' && !s.quoted then heredocStart? (c :: rest) else none) = none)
    (hstep : s.step property c rest = .ok step) : step.text = [c] ∧ step.state.IsPlain := by
  rw [Scan.step_eq h.heredoc hno] at hstep
  dsimp only [Scan.close] at hstep
  split at hstep
  · cases hstep
    exact ⟨rfl, h.heredoc, h.skip⟩
  split at hstep
  · cases hstep
    exact ⟨rfl, h.heredoc, h.skip⟩
  split at hstep
  · split at hstep
    · cases hstep
    · split at hstep
      · cases hstep
        exact ⟨rfl, h.heredoc, h.skip⟩
      · cases hstep
  split at hstep
  · cases hstep
    exact ⟨rfl, h.heredoc, h.skip⟩
  · cases hstep
    exact ⟨rfl, h.heredoc, h.skip⟩

/-- What a scan does before a quote does not depend on what follows the quote. -/
theorem Scan.IsPlain.run (h : s.IsPlain) (hno : ¬ ['<', '<'] <:+: front)
    (hs' : scanAt? property s (front ++ '"' :: rest) front.length = some s') :
    s'.IsPlain ∧ ∀ rest', scanValue property s (front ++ '"' :: rest') =
      readAfter front (scanValue property s' ('"' :: rest')) := by
  induction front generalizing s with
  | nil =>
    obtain rfl : s = s' := Option.some.inj hs'
    refine ⟨h, fun rest' => ?_⟩
    rw [List.nil_append]
    cases scanValue property s ('"' :: rest') <;> rfl
  | cons c front ih =>
    have hsign : ∀ rest',
        (if c == '<' && !s.quoted then heredocStart? (c :: (front ++ '"' :: rest')) else none) = none := by
      intro rest'
      rw [heredocStart?_quote hno, ite_self]
    have hsame : ∀ rest', s.step property c (front ++ '"' :: rest') = s.step property c (front ++ '"' :: rest) := by
      intro rest'
      rw [Scan.step_eq h.heredoc (hsign rest'), Scan.step_eq h.heredoc (hsign rest)]
    rw [List.cons_append, List.length_cons, scanAt?_cons h] at hs'
    split at hs'
    · cases hs'
    · next step hstep =>
      split at hs'
      · cases hs'
      · next hdone =>
        obtain ⟨htext, hplain⟩ := h.of_step (hsign rest) hstep
        obtain ⟨hend, hscan⟩ := ih hplain (fun hsub => hno (hsub.trans (List.suffix_cons c front).isInfix)) hs'
        refine ⟨hend, fun rest' => ?_⟩
        rw [List.cons_append, scanValue_cons h.skip, hsame, hstep, ok_bind, if_neg hdone, hscan, readAfter_readAfter,
          htext, List.singleton_append]

/-! ## From one quote to the next -/

theorem Scan.IsPlain.step_quote (h : s.IsPlain) (hescaped : s.escaped = false) (rest : List Char) :
    s.step property '"' rest = .ok { text := ['"'], state := { s with last := '"', quoted := !s.quoted } } := by
  rw [Scan.step_eq h.heredoc (by simp), hescaped]
  rfl

theorem Scan.IsPlain.escaped_eq_false (h : s.IsPlain) (hout : s.quoted = false)
    (hs' : scanAt? property s ('"' :: rest) 1 = some s') (hin : s'.quoted = true) : s.escaped = false := by
  cases hescaped : s.escaped with
  | false => rfl
  | true =>
    have hstep : s.step property '"' rest =
        .ok { text := ['"'], state := { s with last := '"', escaped := false } } := by
      rw [Scan.step_eq h.heredoc (by simp), hescaped]
      rfl
    rw [scanAt?_cons h, hstep] at hs'
    simp only [Bool.false_eq_true, if_false, scanAt?, Option.some.injEq] at hs'
    rw [← hs', hout] at hin
    cases hin

theorem Scan.IsPlain.scanValue_inside (h : s.IsPlain) (hin : s.quoted = true) (hescaped : s.escaped = false)
    {literal : List Char} (hliteral : IsLiteral literal) (rest : List Char) :
    scanValue property s (literal ++ '"' :: rest) =
      readAfter (literal ++ ['"']) (scanValue property { s with last := '"', quoted := false } rest) := by
  induction literal generalizing s with
  | nil =>
    rw [List.nil_append, scanValue_cons h.skip, h.step_quote hescaped, hin]
    rfl
  | cons c literal ih =>
    obtain ⟨⟨hquote, hback, hnewline⟩, hliteral⟩ := List.forall_mem_cons.mp hliteral
    have hstep : s.step property c (literal ++ '"' :: rest) = .ok { text := [c], state := { s with last := c } } := by
      rw [Scan.step_eq h.heredoc (by simp [hin])]
      simp [hquote, hback, hnewline, hin, hescaped]
    have hplain : Scan.IsPlain { s with last := c } := ⟨h.heredoc, h.skip⟩
    rw [List.cons_append, scanValue_cons h.skip, hstep, ok_bind]
    simp only [Bool.false_eq_true, if_false]
    rw [ih hplain hin hescaped hliteral, readAfter_readAfter]
    rfl

/-- A scan goes over a string as it is, and comes out of it as it went in. -/
theorem Scan.IsOutside.scanValue_literal (h : s.IsOutside) {literal : List Char} (hliteral : IsLiteral literal)
    (rest : List Char) :
    scanValue property s ('"' :: (literal ++ '"' :: rest)) =
      readAfter ('"' :: (literal ++ ['"'])) (scanValue property { s with last := '"' } rest) := by
  have hplain : Scan.IsPlain { s with last := '"', quoted := true } := ⟨h.heredoc, h.skip⟩
  rw [scanValue_cons h.skip, h.step_quote h.escaped, ok_bind, h.quoted]
  simp only [Bool.false_eq_true, if_false, Bool.not_false]
  rw [hplain.scanValue_inside rfl h.escaped hliteral, readAfter_readAfter, List.singleton_append]

/-- A scan that enters a string comes to its quote in a state that does not depend on what follows the quote. -/
theorem EntersString.exists_state (hno : ¬ ['<', '<'] <:+: front)
    (h : EntersString property (front ++ '"' :: rest) front.length) :
    ∃ s : Scan, s.IsOutside ∧ ∀ rest', scanValue property {} (front ++ '"' :: rest') =
      readAfter front (scanValue property s ('"' :: rest')) := by
  obtain ⟨⟨s, hs, hout⟩, s', hs', hin⟩ := h
  have hstart : Scan.IsPlain {} := ⟨rfl, rfl⟩
  obtain ⟨hplain, hrun⟩ := hstart.run hno hs
  rw [scanAt?_append, hs, Option.bind_some] at hs'
  exact ⟨s, ⟨hplain, hout, hplain.escaped_eq_false hout hs' hin⟩, hrun⟩

end Scans

/-! ## Assignments beside a string -/

/-- Where a character divides a list, a part of it without that character is on one of the two sides. -/
theorem append_eq_append_cons {α : Type} {c : α} {front rest before part after : List α} (hc : c ∉ part)
    (h : front ++ c :: rest = before ++ (part ++ after)) :
    (∃ inner, front = before ++ (part ++ inner) ∧ after = inner ++ c :: rest) ∨
      ∃ inner, before = front ++ c :: inner ∧ rest = inner ++ (part ++ after) := by
  obtain ⟨between, hbefore, hrest⟩ | ⟨between, hfront, hrest⟩ := List.append_eq_append_iff.mp h
  · cases between with
    | cons d between =>
      obtain ⟨rfl, htail⟩ := List.cons.inj hrest
      exact .inr ⟨between, hbefore, htail⟩
    | nil =>
      cases part with
      | nil => exact .inl ⟨[], by simpa using hbefore.symm, by simpa using hrest.symm⟩
      | cons d part => exact absurd (List.cons.inj hrest).1 fun e => hc (e ▸ List.mem_cons_self)
  · obtain ⟨inner, hbetween, hafter⟩ | ⟨inner, hpart, hafter⟩ := List.append_eq_append_iff.mp hrest
    · exact .inl ⟨inner, by rw [hfront, hbetween], hafter⟩
    · cases inner with
      | nil => exact .inl ⟨[], by rw [hfront, hpart, List.append_nil, List.append_nil], hafter.symm⟩
      | cons d inner =>
        obtain ⟨rfl, -⟩ := List.cons.inj hafter
        exact absurd (hpart ▸ List.mem_append_right between List.mem_cons_self) hc

section Assignments
variable {name cs cs' front rest literal literal' : List Char}

theorem AssignedAt.beside_literal (hname : isPlainName name = true) (m : AssignedAt name cs)
    (hcs : cs = front ++ '"' :: (literal ++ '"' :: rest)) (hliteral : IsLiteral literal) :
    (∃ inner, front = m.before ++ (m.lead ++ inner) ∧ m.value = inner ++ '"' :: (literal ++ '"' :: rest)) ∨
      ∃ inner, m.before = front ++ '"' :: (literal ++ '"' :: inner) ∧ rest = inner ++ (m.lead ++ m.value) := by
  have hquote : '"' ∉ m.lead := m.notMem_lead hname (by decide) (by decide) (by decide)
  have hsplit : front ++ '"' :: (literal ++ '"' :: rest) = m.before ++ (m.lead ++ m.value) := hcs ▸ m.eq_append
  obtain hbefore | ⟨inner, hbefore, hinner⟩ := append_eq_append_cons hquote hsplit
  · exact .inl hbefore
  · obtain ⟨last, hlast, -⟩ | ⟨inner', rfl, hrest⟩ := append_eq_append_cons hquote hinner
    · -- An assignment does not start in the string, where no line starts.
      have hchar : ∃ c, m.before.getLast? = some c ∧ c ≠ '\n' := by
        rw [hbefore]
        cases inner using List.reverseRecOn with
        | nil => exact ⟨'"', by simp, by decide⟩
        | append_singleton inner c =>
          have hmem : c ∈ literal := by
            rw [hlast]
            simp
          refine ⟨c, ?_, (hliteral c hmem).2.2⟩
          rw [List.getLast?_append_cons, ← List.cons_append, List.getLast?_concat]
      obtain ⟨c, hc, hnewline⟩ := hchar
      exact absurd (m.lineStart c hc) hnewline
    · exact .inr ⟨inner', hbefore, hrest⟩

theorem AssignedAt.exists_inner (hname : isPlainName name = true) (m : AssignedAt name cs)
    (hcs : cs = front ++ '"' :: (literal ++ '"' :: rest)) (hliteral : IsLiteral literal)
    (hle : m.before.length ≤ front.length) : ∃ inner, front = m.before ++ (m.lead ++ inner) := by
  obtain ⟨inner, hinner, -⟩ | ⟨inner, hinner, -⟩ := m.beside_literal hname hcs hliteral
  · exact ⟨inner, hinner⟩
  · have hlength := congrArg List.length hinner
    simp only [List.length_append, List.length_cons] at hlength
    omega

/-- Another text between the quotes leaves the assignments where they are, or moves them with the text behind it. -/
theorem exists_assignedAt_literal (hname : isPlainName name = true) (m : AssignedAt name cs)
    (hcs : cs = front ++ '"' :: (literal ++ '"' :: rest)) (hcs' : cs' = front ++ '"' :: (literal' ++ '"' :: rest))
    (hliteral : IsLiteral literal) :
    ∃ m' : AssignedAt name cs', m'.spaces = m.spaces ∧ m'.gap = m.gap ∧
      (m'.before = m.before ∨ front.length < m.before.length) := by
  obtain ⟨inner, hfront, -⟩ | ⟨inner, hbefore, hrest⟩ := m.beside_literal hname hcs hliteral
  · refine ⟨⟨m.before, m.spaces, m.gap, inner ++ '"' :: (literal' ++ '"' :: rest), ?_, m.lineStart, m.blank⟩,
      rfl, rfl, .inl rfl⟩
    rw [hcs', hfront, AssignedAt.lead]
    simp
  · have hlast : (front ++ '"' :: (literal' ++ '"' :: inner)).getLast? = m.before.getLast? := by
      rw [hbefore, List.getLast?_append_cons, List.getLast?_append_cons, ← List.cons_append, ← List.cons_append,
        List.getLast?_append_cons, List.getLast?_append_cons]
    refine ⟨⟨front ++ '"' :: (literal' ++ '"' :: inner), m.spaces, m.gap, m.value, ?_, ?_, m.blank⟩,
      rfl, rfl, .inr ?_⟩
    · rw [hcs', hrest, AssignedAt.lead]
      simp
    · rw [hlast]
      exact m.lineStart
    · rw [hbefore]
      simp

theorem AssignedAt.IsChosen.of_literal (hname : isPlainName name = true) {m : AssignedAt name cs} (hm : m.IsChosen)
    {m' : AssignedAt name cs'} (hspaces : m'.spaces = m.spaces) (hbefore : m'.before = m.before)
    (hle : m.before.length ≤ front.length) (hcs : cs = front ++ '"' :: (literal ++ '"' :: rest))
    (hcs' : cs' = front ++ '"' :: (literal' ++ '"' :: rest)) (hliteral' : IsLiteral literal') : m'.IsChosen := by
  intro n'
  obtain ⟨n, hn, -, hplace⟩ := exists_assignedAt_literal hname n' hcs' hcs hliteral'
  have hchosen := hm n
  rw [hspaces, hbefore]
  obtain hplace | hplace := hplace
  · rw [hn, hplace] at hchosen
    exact hchosen
  · omega

end Assignments

/-! ## Found values -/

/-- The text that is read behind a string, without the blank characters at its end, if no bracket is left open. -/
def closedText (property : String) (result : Except Error (List Char × List Char)) : Except Error (List Char) := do
  let (read, brackets) ← result
  if !brackets.isEmpty then .error (.unmatchedBrackets property)
  return trimEnd read

theorem trim_literal (inner literal rest : List Char) :
    trim (inner ++ '"' :: (literal ++ '"' :: rest)) = trimStart inner ++ '"' :: (literal ++ '"' :: trimEnd rest) := by
  have hquote : isBlank '"' = false := by decide
  have hsplit : trimStart inner ++ '"' :: (literal ++ '"' :: rest) =
      (trimStart inner ++ '"' :: literal) ++ '"' :: rest := by simp
  rw [trim, trimStart_append_cons hquote, hsplit, trimEnd_append_cons hquote]
  simp

theorem toList_withLiteral (front literal rest : List Char) :
    (withLiteral front literal rest).toList = front ++ '"' :: (literal ++ '"' :: rest) := String.toList_ofList

section Found
variable {property text : String} {m : AssignedAt property.toList text.toList}
  {front inner literal rest : List Char} {s : Scan}

theorem AssignedAt.text_eq {name cs before tail : List Char} (m : AssignedAt name cs) (hbefore : m.before = before)
    (hcs : cs = before ++ tail) : m.text = tail := by
  have hsplit := hcs.symm.trans m.eq_append
  rw [hbefore, List.append_cancel_left_eq] at hsplit
  exact hsplit.symm

/-- What is found where a scan enters a string: the text between the equals sign and the string, the string as it is,
and what is read behind it. -/
theorem AssignedAt.findProperty_literal (hname : isPlainName property.toList = true) (hm : m.IsChosen)
    (htext : m.text = front ++ '"' :: (literal ++ '"' :: rest)) (hfront : front = m.lead ++ inner)
    (hs : s.IsOutside) (hrun : ∀ rest', scanValue property {} (front ++ '"' :: rest') =
      readAfter front (scanValue property s ('"' :: rest'))) (hliteral : IsLiteral literal) :
    findProperty text property = (closedText property (scanValue property { s with last := '"' } rest)).map
      (withLiteral (trimStart inner) literal) := by
  rw [m.findProperty_eq hname hm, htext, hrun, hs.scanValue_literal hliteral, readAfter_readAfter]
  cases scanValue property { s with last := '"' } rest with
  | error e => rfl
  | ok found =>
    obtain ⟨read, brackets⟩ := found
    cases brackets with
    | cons => rfl
    | nil =>
      have hread : front ++ '"' :: (literal ++ ['"']) ++ read =
          m.lead ++ (inner ++ '"' :: (literal ++ '"' :: read)) := by
        rw [hfront]
        simp
      simp only [readAfter, Except.map, bind, Except.bind, hread, m.dropAssignment_eq hname, trim_trimStart,
        trim_literal]
      rfl

end Found

/-- Another text between the quotes of a string that a scan enters changes nothing but itself: there is the same error,
or the same value with the other text between the quotes that stand behind the same beginning. -/
theorem findProperty_withLiteral {property : String} {before front literal literal' rest : List Char}
    (hname : isIdentifier property = true)
    (m : AssignedAt property.toList (withLiteral (before ++ front) literal rest).toList) (hm : m.IsChosen)
    (hbefore : m.before = before) (hno : ¬ ['<', '<'] <:+: front)
    (henters : EntersString property m.text front.length) (hliteral : IsLiteral literal)
    (hliteral' : IsLiteral literal') :
    (∀ e, findProperty (withLiteral (before ++ front) literal' rest) property = .error e ↔
        findProperty (withLiteral (before ++ front) literal rest) property = .error e) ∧
      ∀ value, findProperty (withLiteral (before ++ front) literal rest) property = .ok value →
        ∃ behind, value = withLiteral (trimStart (front.drop m.lead.length)) literal behind ∧
          findProperty (withLiteral (before ++ front) literal' rest) property =
            .ok (withLiteral (trimStart (front.drop m.lead.length)) literal' behind) := by
  have hplain := isPlainName_of_isIdentifier hname
  have hcs := toList_withLiteral (before ++ front) literal rest
  have hcs' := toList_withLiteral (before ++ front) literal' rest
  have hle : m.before.length ≤ (before ++ front).length := by simp [hbefore]
  have htext := m.text_eq hbefore (hcs.trans (List.append_assoc _ _ _))
  -- The same place is chosen in the other text.
  obtain ⟨m', hspaces, hgap, hbefore' | hlt⟩ := exists_assignedAt_literal hplain m hcs hcs' hliteral
  · have hm' : m'.IsChosen := hm.of_literal hplain hspaces hbefore' hle hcs hcs' hliteral'
    have htext' := m'.text_eq (hbefore'.trans hbefore) (hcs'.trans (List.append_assoc _ _ _))
    have hlead : m'.lead = m.lead := by rw [AssignedAt.lead, AssignedAt.lead, hspaces, hgap]
    obtain ⟨inner, hfront⟩ := m.exists_inner hplain hcs hliteral hle
    rw [hbefore, List.append_cancel_left_eq] at hfront
    have hdrop : front.drop m.lead.length = inner := (congrArg _ hfront).trans List.drop_left
    rw [htext] at henters
    obtain ⟨s, hs, hrun⟩ := henters.exists_state hno
    rw [hdrop, m.findProperty_literal hplain hm htext hfront hs hrun hliteral,
      m'.findProperty_literal hplain hm' htext' (hlead ▸ hfront) hs hrun hliteral']
    cases closedText property (scanValue property { s with last := '"' } rest) with
    | error e => exact ⟨fun _ => Iff.rfl, fun value hvalue => by cases hvalue⟩
    | ok behind =>
      refine ⟨fun e => iff_of_false (fun he => by cases he) (fun he => by cases he), fun value hvalue => ?_⟩
      exact ⟨behind, (Except.ok.inj hvalue).symm, rfl⟩
  · omega

/-- Brackets, the sign of a here document and an assignment, all between quotes. -/
theorem findProperty_literal_brackets :
    findProperty (withLiteral "b=[".toList "x".toList "]\n".toList) "b" = .ok "[\"x\"]" ∧
      findProperty (withLiteral "b=[".toList ")<<E b=".toList "]\n".toList) "b" = .ok "[\")<<E b=\"]" := by
  let m : AssignedAt "b".toList (withLiteral ([] ++ "b=[".toList) "x".toList "]\n".toList).toList :=
    ⟨[], 0, [], "[\"x\"]\n".toList, by decide, by simp, by simp⟩
  have hm : m.IsChosen := AssignedAt.isChosen_of_forall (by decide) (by decide)
  have henters : EntersString "b" m.text "b=[".toList.length := ⟨⟨_, rfl, rfl⟩, ⟨_, rfl, rfl⟩⟩
  have hfound : findProperty (withLiteral "b=[".toList "x".toList "]\n".toList) "b" = .ok "[\"x\"]" := by
    decide +kernel
  have hliteral : IsLiteral "x".toList := by simp [IsLiteral]
  have hliteral' : IsLiteral ")<<E b=".toList := by simp [IsLiteral]
  have hfront : trimStart ("b=[".toList.drop m.lead.length) = ['['] := by decide
  obtain ⟨behind, hvalue, hother⟩ :=
    (findProperty_withLiteral (by decide) m hm rfl (by decide) henters hliteral hliteral').2 _ hfound
  rw [hfront] at hvalue hother
  obtain rfl : [']'] = behind := by simpa [withLiteral] using congrArg String.toList hvalue
  exact ⟨hfound, hother⟩

end ModuleDocs.Hcl
