import ModuleDocs.Proofs.Nesting
import ModuleDocs.Proofs.Success

/-! # Where a value ends

What a position in a text is like is said by the text before it: whether it is inside a string (`InString`), and which
brackets stand before it (`bracketsBefore`). A value ends at the first position after a line end, or after the bracket
that closes the last one, where all is closed (`valueExtent`). The state of a scan says of each position what the text
before it says, as long as no here document opens (`Scan.Reads.run`). So a scan over a text in which none opens stops
where the value ends (`scanValue_eq_ok_iff`). -/
set_option autoImplicit false

namespace ModuleDocs.Hcl

/-! ## Positions -/

def endBackslashes (cs : List Char) : Nat := (cs.reverse.takeWhile (· == '\\')).length

/-- A quote that opens or closes a string: no odd run of backslashes stands before it. -/
def IsActiveQuote (cs : List Char) (i : Nat) : Prop := cs[i]? = some '"' ∧ endBackslashes (cs.take i) % 2 = 0

instance (cs : List Char) : DecidablePred (IsActiveQuote cs) := fun i =>
  inferInstanceAs (Decidable (cs[i]? = some '"' ∧ endBackslashes (cs.take i) % 2 = 0))

/-- The position has an odd number of active quotes before it. -/
def InString (cs : List Char) (i : Nat) : Prop := (List.range i).countP (IsActiveQuote cs ·) % 2 = 1

instance (cs : List Char) : DecidablePred (InString cs) := fun i =>
  inferInstanceAs (Decidable ((List.range i).countP (IsActiveQuote cs ·) % 2 = 1))

/-- The brackets before a position that are not in strings. -/
def bracketsBefore (cs : List Char) (i : Nat) : List Char :=
  (List.range i).filterMap fun j => if InString cs j then none else cs[j]?.filter fun c => isOpening c || isClosing c

/-- A here document opens at a position: its sign and a name stand there, outside strings. -/
def OpensHeredoc (cs : List Char) (i : Nat) : Prop := ¬ InString cs i ∧ (heredocStart? (cs.drop i)).isSome = true

instance (cs : List Char) : DecidablePred (OpensHeredoc cs) := fun i =>
  inferInstanceAs (Decidable (¬ InString cs i ∧ (heredocStart? (cs.drop i)).isSome = true))

/-- All brackets are closed at a position, and what stands before it is a line end, or a closing bracket on a later line
than the first. -/
def EndsValue (cs : List Char) : Nat → Prop
  | 0 => False
  | i + 1 => ¬ InString cs i ∧ depthOf (bracketsBefore cs (i + 1)) = 0 ∧
      (cs[i]? = some '\n' ∨ cs[i]?.any isClosing = true ∧ '\n' ∈ cs.take i)

instance (cs : List Char) : DecidablePred (EndsValue cs)
  | 0 => inferInstanceAs (Decidable False)
  | i + 1 => inferInstanceAs (Decidable (¬ InString cs i ∧ depthOf (bracketsBefore cs (i + 1)) = 0 ∧
      (cs[i]? = some '\n' ∨ cs[i]?.any isClosing = true ∧ '\n' ∈ cs.take i)))

/-- The first position at which a value ends, or the end of the text. -/
def valueExtent (cs : List Char) : Nat :=
  ((List.range (cs.length + 1)).find? (EndsValue cs ·)).getD cs.length

/-! ## From one position to the next -/

section Positions
variable {cs : List Char} {i : Nat} {c : Char}

theorem getElem?_of_drop_eq_cons {rest : List Char} (h : cs.drop i = c :: rest) : cs[i]? = some c := by
  rw [← List.head?_drop, h, List.head?_cons]

theorem endBackslashes_succ (hc : cs[i]? = some c) :
    endBackslashes (cs.take (i + 1)) = if c = '\\' then endBackslashes (cs.take i) + 1 else 0 := by
  rw [List.take_add_one, hc, Option.toList_some]
  unfold endBackslashes
  rw [List.reverse_append, List.reverse_singleton, List.singleton_append, List.takeWhile_cons]
  by_cases h : c = '\\' <;> simp [h]

theorem mem_take_succ (hc : cs[i]? = some c) (d : Char) : d ∈ cs.take (i + 1) ↔ d ∈ cs.take i ∨ d = c := by
  rw [List.take_add_one, hc, Option.toList_some, List.mem_append, List.mem_singleton]

theorem inString_succ_of_active (h : IsActiveQuote cs i) : InString cs (i + 1) ↔ ¬ InString cs i := by
  unfold InString
  rw [List.range_succ, List.countP_append, List.countP_singleton, if_pos (decide_eq_true h)]
  omega

theorem inString_succ_of_not_active (h : ¬ IsActiveQuote cs i) : InString cs (i + 1) ↔ InString cs i := by
  unfold InString
  rw [List.range_succ, List.countP_append, List.countP_singleton, if_neg (by simpa using h), Nat.add_zero]

theorem bracketsBefore_succ (cs : List Char) (i : Nat) :
    bracketsBefore cs (i + 1) = bracketsBefore cs i ++
      (if InString cs i then none else cs[i]?.filter fun c => isOpening c || isClosing c).toList := by
  unfold bracketsBefore
  rw [List.range_succ, List.filterMap_append, List.filterMap_cons, List.filterMap_nil]
  split <;> simp [*]

theorem bracketsBefore_succ_of_bracket (hc : cs[i]? = some c) (hout : ¬ InString cs i)
    (hbracket : (isOpening c || isClosing c) = true) : bracketsBefore cs (i + 1) = bracketsBefore cs i ++ [c] := by
  rw [bracketsBefore_succ, if_neg hout, hc, Option.filter_some, if_pos hbracket, Option.toList_some]

theorem bracketsBefore_succ_of_inString (h : InString cs i) : bracketsBefore cs (i + 1) = bracketsBefore cs i := by
  rw [bracketsBefore_succ, if_pos h, Option.toList_none, List.append_nil]

theorem bracketsBefore_succ_of_not_bracket (hc : cs[i]? = some c) (h : (isOpening c || isClosing c) = false) :
    bracketsBefore cs (i + 1) = bracketsBefore cs i := by
  rw [bracketsBefore_succ, hc, Option.filter_some, h]
  simp

theorem bracketsBefore_append (cs : List Char) (i n : Nat) :
    ∃ bs, bracketsBefore cs (i + n) = bracketsBefore cs i ++ bs := by
  unfold bracketsBefore
  rw [List.range_add, List.filterMap_append]
  exact ⟨_, rfl⟩

/-- Brackets that do not close each other are not mended by what comes later. -/
theorem openAfter_eq_none_of_le {j : Nat} (h : openAfter (bracketsBefore cs i) = none) (hij : i ≤ j) :
    openAfter (bracketsBefore cs j) = none := by
  obtain ⟨n, rfl⟩ := Nat.exists_eq_add_of_le hij
  obtain ⟨bs, hbs⟩ := bracketsBefore_append cs i n
  rw [hbs, openAfter_append, h, Option.bind_none]

end Positions

/-! ## The extent of a value -/

section Extent
variable {cs : List Char} {i : Nat}

theorem not_endsValue_of_length_lt (h : cs.length < i) : ¬ EndsValue cs i := by
  cases i with
  | zero => exact fun h => h
  | succ i =>
    have hnone : cs[i]? = none := List.getElem?_eq_none (by omega)
    rintro ⟨-, -, hc | ⟨hc, -⟩⟩
    · rw [hnone] at hc
      cases hc
    · rw [hnone] at hc
      cases hc

theorem valueExtent_cases (cs : List Char) :
    (∃ k, valueExtent cs = k + 1 ∧ EndsValue cs (k + 1) ∧ ∀ j ≤ k, ¬ EndsValue cs j) ∨
      (valueExtent cs = cs.length ∧ ∀ j, ¬ EndsValue cs j) := by
  unfold valueExtent
  cases hfind : (List.range (cs.length + 1)).find? (EndsValue cs ·) with
  | none =>
    rw [List.find?_eq_none] at hfind
    refine .inr ⟨rfl, fun j => ?_⟩
    by_cases hj : cs.length < j
    · exact not_endsValue_of_length_lt hj
    · simpa using hfind j (List.mem_range.mpr (by omega))
  | some q =>
    rw [List.find?_range_eq_some] at hfind
    obtain ⟨hends, -, hfirst⟩ := hfind
    rw [decide_eq_true_iff] at hends
    cases q with
    | zero => exact absurd hends fun h => h
    | succ k => exact .inl ⟨k, rfl, hends, fun j hj => by simpa using hfirst j (by omega)⟩

theorem not_endsValue_of_lt (h : i < valueExtent cs) : ¬ EndsValue cs i := by
  obtain ⟨k, hextent, -, hbefore⟩ | ⟨-, hnever⟩ := valueExtent_cases cs
  · exact hbefore i (by omega)
  · exact hnever i

theorem lt_valueExtent (hi : i < cs.length) (hbefore : ∀ j ≤ i, ¬ EndsValue cs j) : i < valueExtent cs := by
  obtain ⟨k, hextent, hends, -⟩ | ⟨hextent, -⟩ := valueExtent_cases cs
  · have hle : ¬ k + 1 ≤ i := fun hle => hbefore _ hle hends
    omega
  · omega

end Extent

/-! ## Scans -/

/-- The state of a scan says what the text before a position does. -/
structure Scan.Reads (cs : List Char) (i : Nat) (s : Scan) : Prop where
  escaped : s.escaped = decide (endBackslashes (cs.take i) % 2 = 1)
  quoted : s.quoted = decide (InString cs i)
  lineEnded : s.lineEnded = decide ('\n' ∈ cs.take i)
  brackets : openAfter (bracketsBefore cs i) = some s.brackets
  heredoc : s.heredoc = none
  skip : s.skip = 0

theorem Scan.reads_start (cs : List Char) : Scan.Reads cs 0 {} := by
  constructor <;> rfl

section Steps
variable {property : String} {cs rest : List Char} {i : Nat} {s : Scan} {c : Char}

theorem heredocStart?_eq_none (h : ¬ ['<', '<'] <+: cs) : heredocStart? cs = none := by
  unfold heredocStart?
  split
  · next rest => exact absurd ⟨rest, rfl⟩ h
  · rfl

theorem not_opensHeredoc_of_absent (hno : ¬ ['<', '<'] <:+: cs) (i : Nat) : ¬ OpensHeredoc cs i := by
  rintro ⟨-, hstart⟩
  rw [heredocStart?_eq_none fun hstart => hno (hstart.isInfix.trans (List.drop_suffix i cs).isInfix)] at hstart
  cases hstart

/-- What a scan does at a closing bracket: it has to close the last one that is open. -/
def Scan.close (property : String) (s : Scan) (c : Char) : Except Error Step :=
  match s.brackets with
  | [] => .error .strayBracket
  | last :: outer =>
    if opening? c = some last then
      .ok { text := [c], state := { s with last := c, escaped := c == '\\' && !s.escaped, brackets := outer },
            done := s.lineEnded && outer.isEmpty }
    else .error (.unmatchedBrackets property)

theorem Scan.step_eq (hheredoc : s.heredoc = none)
    (hno : (if c == '<' && !s.quoted then heredocStart? (c :: rest) else none) = none) :
    s.step property c rest =
      let next := { s with last := c, escaped := c == '\\' && !s.escaped }
      if c == '"' && !s.escaped then .ok { text := [c], state := { next with quoted := !s.quoted } }
      else if isOpening c && !s.quoted then .ok { text := [c], state := { next with brackets := c :: s.brackets } }
      else if isClosing c && !s.quoted then s.close property c
      else if c == '\n' then
        .ok { text := [c], state := { next with lineEnded := true }, done := !s.quoted && s.brackets.isEmpty }
      else .ok { text := [c], state := next } := by
  obtain ⟨brackets, lineEnded, quoted, heredoc, escaped, last, skip⟩ := s
  obtain rfl : heredoc = none := hheredoc
  unfold Scan.step
  simp only [Scan.atHeredocEnd, Option.isNone_none, Bool.and_true, hno]
  rfl

/-- After a character the state says what the text says, if its brackets, quotes and line ends do. -/
theorem Scan.Reads.next (h : s.Reads cs i) (hc : cs[i]? = some c) {quoted lineEnded : Bool} {brackets : List Char}
    (hquoted : quoted = decide (InString cs (i + 1))) (hlineEnded : lineEnded = (s.lineEnded || c == '\n'))
    (hbrackets : openAfter (bracketsBefore cs (i + 1)) = some brackets) :
    Scan.Reads cs (i + 1)
      { s with last := c, escaped := c == '\\' && !s.escaped, quoted, lineEnded, brackets } := by
  refine ⟨?_, hquoted, ?_, hbrackets, h.heredoc, h.skip⟩
  · have hparity : (endBackslashes (cs.take i) + 1) % 2 = 1 ↔ ¬ endBackslashes (cs.take i) % 2 = 1 := by omega
    rw [endBackslashes_succ hc, h.escaped, Bool.eq_iff_iff]
    by_cases hback : c = '\\' <;> simp [hback, hparity]
  · rw [hlineEnded, h.lineEnded, Bool.eq_iff_iff, decide_eq_true_iff, mem_take_succ hc, Bool.or_eq_true,
      decide_eq_true_iff, beq_iff_eq, @eq_comm _ c]

theorem Scan.Reads.isActiveQuote_iff (h : s.Reads cs i) (hc : cs[i]? = some c) :
    IsActiveQuote cs i ↔ (c == '"' && !s.escaped) = true := by
  have hparity : ¬ endBackslashes (cs.take i) % 2 = 1 ↔ endBackslashes (cs.take i) % 2 = 0 := by omega
  rw [h.escaped, IsActiveQuote, hc, ← hparity]
  simp

/-- What a scan does at a character: it goes on or stops as the text says, or it fails at a bracket that closes none. -/
def Scan.Follows (cs : List Char) (i : Nat) (c : Char) (result : Except Error Step) : Prop :=
  (∃ s', result = .ok { text := [c], state := s', done := decide (EndsValue cs (i + 1)) } ∧ s'.Reads cs (i + 1)) ∨
    ((∃ e, result = .error e) ∧ openAfter (bracketsBefore cs (i + 1)) = none)

theorem endsValue_succ : EndsValue cs (i + 1) ↔ ¬ InString cs i ∧ depthOf (bracketsBefore cs (i + 1)) = 0 ∧
    (cs[i]? = some '\n' ∨ cs[i]?.any isClosing = true ∧ '\n' ∈ cs.take i) := Iff.rfl

theorem not_endsValue_of_char (hc : cs[i]? = some c) (hclosing : isClosing c = false) (hnewline : c ≠ '\n') :
    ¬ EndsValue cs (i + 1) := by
  rintro ⟨-, -, h | ⟨h, -⟩⟩
  · exact hnewline (Option.some.inj (hc.symm.trans h))
  · rw [hc, Option.any_some, hclosing] at h
    cases h

theorem Scan.Reads.follows_of_active (h : s.Reads cs i) (hactive : IsActiveQuote cs i) :
    Scan.Follows cs i '"' (.ok
      { text := ['"']
        state := { s with last := '"', escaped := '"' == '\\' && !s.escaped, quoted := !s.quoted } }) := by
  have hc := hactive.1
  have hends : ¬ EndsValue cs (i + 1) := not_endsValue_of_char hc rfl (by decide)
  refine .inl ⟨_, by rw [decide_eq_false hends], h.next hc ?_ (by simp) ?_⟩
  · rw [h.quoted, Bool.eq_iff_iff]
    simp [inString_succ_of_active hactive]
  · rw [bracketsBefore_succ_of_not_bracket hc rfl]
    exact h.brackets

theorem Scan.Reads.quoted_succ (h : s.Reads cs i) (hactive : ¬ IsActiveQuote cs i) :
    s.quoted = decide (InString cs (i + 1)) := by
  rw [h.quoted, Bool.eq_iff_iff]
  simp [inString_succ_of_not_active hactive]

/-- In a string only line ends count, and none of them ends the value. -/
theorem Scan.Reads.follows_of_inString (h : s.Reads cs i) (hc : cs[i]? = some c) (hactive : ¬ IsActiveQuote cs i)
    (hin : InString cs i) :
    Scan.Follows cs i c (.ok
      { text := [c]
        state := { s with
          last := c, escaped := c == '\\' && !s.escaped, lineEnded := s.lineEnded || c == '\n' } }) := by
  have hends : ¬ EndsValue cs (i + 1) := fun hends => hends.1 hin
  refine .inl ⟨_, by rw [decide_eq_false hends], h.next hc (h.quoted_succ hactive) rfl ?_⟩
  rw [bracketsBefore_succ_of_inString hin]
  exact h.brackets

section Outside
variable (h : s.Reads cs i) (hc : cs[i]? = some c) (hactive : ¬ IsActiveQuote cs i) (hout : ¬ InString cs i)
include h hc hactive hout

theorem Scan.Reads.follows_of_opening (hopening : isOpening c = true) :
    Scan.Follows cs i c (.ok
      { text := [c]
        state := { s with last := c, escaped := c == '\\' && !s.escaped, brackets := c :: s.brackets } }) := by
  have hnewline : c ≠ '\n' := by
    rintro rfl
    cases hopening
  have hends := not_endsValue_of_char hc (isClosing_eq_false hopening) hnewline
  refine .inl ⟨_, by rw [decide_eq_false hends], h.next hc (h.quoted_succ hactive) ?_ ?_⟩
  · simp [hnewline]
  · rw [bracketsBefore_succ_of_bracket hc hout (by simp [hopening]), openAfter_concat, h.brackets, Option.bind_some,
      bracketStep_of_isOpening hopening]

theorem Scan.Reads.follows_of_closing (hclosing : isClosing c = true) :
    Scan.Follows cs i c (s.close property c) := by
  have hnewline : c ≠ '\n' := by
    rintro rfl
    cases hclosing
  have hopen : openAfter (bracketsBefore cs (i + 1)) = bracketStep s.brackets c := by
    rw [bracketsBefore_succ_of_bracket hc hout (by simp [hclosing]), openAfter_concat, h.brackets, Option.bind_some]
  unfold Scan.close
  cases hbrackets : s.brackets with
  | nil =>
    rw [hbrackets, bracketStep_nil_of_isClosing hclosing] at hopen
    exact .inr ⟨⟨_, rfl⟩, hopen⟩
  | cons last outer =>
    rw [hbrackets, bracketStep_of_isClosing hclosing] at hopen
    dsimp only
    split
    · next hpair =>
      rw [if_pos hpair] at hopen
      have hdepth : depthOf (bracketsBefore cs (i + 1)) = outer.length := depthOf_eq hopen
      have hends : EndsValue cs (i + 1) ↔ (s.lineEnded && outer.isEmpty) = true := by
        rw [endsValue_succ, hdepth, hc, h.lineEnded]
        simp [hout, hnewline, hclosing, and_comm]
      have hlineEnded : s.lineEnded = (s.lineEnded || c == '\n') := by simp [hnewline]
      refine .inl ⟨_, ?_, h.next hc (h.quoted_succ hactive) hlineEnded hopen⟩
      simp only [hends, Bool.decide_eq_true]
    · next hpair =>
      rw [if_neg hpair] at hopen
      exact .inr ⟨⟨_, rfl⟩, hopen⟩

theorem Scan.Reads.follows_of_other (hopening : isOpening c = false) (hclosing : isClosing c = false) :
    Scan.Follows cs i c (if c == '\n' then
        .ok { text := [c]
              state := { s with last := c, escaped := c == '\\' && !s.escaped, lineEnded := true }
              done := s.brackets.isEmpty }
      else .ok { text := [c], state := { s with last := c, escaped := c == '\\' && !s.escaped } }) := by
  have hopen : openAfter (bracketsBefore cs (i + 1)) = some s.brackets := by
    rw [bracketsBefore_succ_of_not_bracket hc (by simp [hopening, hclosing])]
    exact h.brackets
  split
  · next hnewline =>
    have hends : EndsValue cs (i + 1) ↔ s.brackets.isEmpty = true := by
      rw [endsValue_succ, depthOf_eq hopen, hc, beq_iff_eq.mp hnewline]
      simp [hout]
    have hlineEnded : true = (s.lineEnded || c == '\n') := by simp [hnewline]
    refine .inl ⟨_, ?_, h.next hc (h.quoted_succ hactive) hlineEnded hopen⟩
    simp only [hends, Bool.decide_eq_true]
  · next hnewline =>
    have hends := not_endsValue_of_char hc hclosing (by simpa using hnewline)
    refine .inl ⟨_, by rw [decide_eq_false hends], h.next hc (h.quoted_succ hactive) ?_ hopen⟩
    simp [hnewline]

end Outside

variable (property) in
theorem Scan.Reads.step (h : s.Reads cs i) (hdrop : cs.drop i = c :: rest) (hno : ¬ OpensHeredoc cs i) :
    Scan.Follows cs i c (s.step property c rest) := by
  have hc : cs[i]? = some c := getElem?_of_drop_eq_cons hdrop
  have hstart : (if c == '<' && !s.quoted then heredocStart? (c :: rest) else none) = none := by
    rw [h.quoted, ← hdrop]
    by_cases hin : InString cs i
    · simp [hin]
    · have hnone : heredocStart? (cs.drop i) = none := by simpa [OpensHeredoc, hin] using hno
      rw [hnone, ite_self]
  rw [Scan.step_eq h.heredoc hstart]
  dsimp only
  by_cases hactive : IsActiveQuote cs i
  · rw [if_pos ((h.isActiveQuote_iff hc).mp hactive)]
    obtain rfl : c = '"' := Option.some.inj (hc.symm.trans hactive.1)
    exact h.follows_of_active hactive
  rw [if_neg (mt (h.isActiveQuote_iff hc).mpr hactive)]
  by_cases hin : InString cs i
  · have hstring := h.follows_of_inString hc hactive hin
    have hquoted : s.quoted = true := by rw [h.quoted, decide_eq_true hin]
    simp only [hquoted, Bool.not_true, Bool.and_false, Bool.false_and, Bool.false_eq_true, if_false]
    split
    · next hnewline => simpa [hnewline, hquoted] using hstring
    · next hnewline => simpa [hnewline, hquoted] using hstring
  · have hquoted : s.quoted = false := by rw [h.quoted, decide_eq_false hin]
    simp only [hquoted, Bool.not_false, Bool.and_true, Bool.true_and]
    split
    · next hopening => simpa [hquoted] using h.follows_of_opening hc hactive hin hopening
    · next hopening =>
      split
      · next hclosing => simpa [hquoted] using h.follows_of_closing hc hactive hin hclosing
      · next hclosing =>
        simpa [hquoted] using h.follows_of_other hc hactive hin (by simpa using hopening) (by simpa using hclosing)

/-! ## Runs -/

theorem drop_take_eq_cons {q : Nat} (hc : cs[i]? = some c) (hq : i < q) :
    (cs.take q).drop i = c :: (cs.take q).drop (i + 1) := by
  have hi : i < (cs.take q).length := by
    have := (List.getElem?_eq_some_iff.mp hc).1
    rw [List.length_take]
    omega
  have hget : (cs.take q)[i]? = some c := by rw [List.getElem?_take_of_lt hq, hc]
  rw [List.drop_eq_getElem_cons hi, (List.getElem?_eq_some_iff.mp hget).2]

/-- The texts of a scan that has read some characters before. -/
def readAfter (front : List Char) (result : Except Error (List Char × List Char)) :
    Except Error (List Char × List Char) :=
  result.map fun found => (front ++ found.1, found.2)

theorem readAfter_readAfter (front next : List Char) (result : Except Error (List Char × List Char)) :
    readAfter front (readAfter next result) = readAfter (front ++ next) result := by
  cases result with
  | error e => rfl
  | ok => simp [readAfter, Except.map]

theorem scanValue_cons (hskip : s.skip = 0) :
    scanValue property s (c :: rest) = s.step property c rest >>= fun step =>
      if step.done then .ok (step.text, step.state.brackets)
      else readAfter step.text (scanValue property step.state rest) := by
  rw [scanValue, hskip]
  dsimp only
  cases s.step property c rest with
  | error e => rfl
  | ok step =>
    rw [ok_bind]
    dsimp only
    split
    · rfl
    · cases scanValue property step.state rest <;> rfl

variable (property) in
/-- Up to a place before which no value ends and no here document opens, a scan reads the text as it is, or fails at
brackets that do not close each other. -/
theorem Scan.Reads.run (h : s.Reads cs i) {k : Nat} (hik : i ≤ k) (hk : k ≤ cs.length)
    (hbefore : ∀ j ≤ k, ¬ EndsValue cs j) (hno : ∀ j < k, ¬ OpensHeredoc cs j) :
    (∃ s', s'.Reads cs k ∧
        scanValue property s (cs.drop i) = readAfter ((cs.take k).drop i) (scanValue property s' (cs.drop k))) ∨
      (openAfter (bracketsBefore cs k) = none ∧ ∃ e, scanValue property s (cs.drop i) = .error e) := by
  induction hn : k - i generalizing i s with
  | zero =>
    obtain rfl : i = k := by omega
    refine .inl ⟨s, h, ?_⟩
    rw [List.drop_eq_nil_of_le (List.length_take_le _ _)]
    cases scanValue property s (cs.drop i) <;> rfl
  | succ n ih =>
    obtain ⟨c, rest, hrest⟩ : ∃ c rest, cs.drop i = c :: rest :=
      List.exists_cons_of_ne_nil fun hnil => by have := List.drop_eq_nil_iff.mp hnil; omega
    have hc : cs[i]? = some c := getElem?_of_drop_eq_cons hrest
    have hnext : cs.drop (i + 1) = rest := by rw [← List.tail_drop, hrest, List.tail_cons]
    rw [hrest, scanValue_cons h.skip, drop_take_eq_cons hc (by omega)]
    obtain ⟨s', hstep, hs'⟩ | ⟨⟨e, hstep⟩, hnone⟩ := h.step property hrest (hno i (by omega))
    · rw [hstep, ok_bind, decide_eq_false (hbefore (i + 1) (by omega))]
      simp only [Bool.false_eq_true, if_false]
      rw [← hnext]
      obtain ⟨s'', hs'', hscan⟩ | ⟨hnone, e, hscan⟩ := ih hs' (by omega) (by omega)
      · exact .inl ⟨s'', hs'', by rw [hscan, readAfter_readAfter, List.singleton_append]⟩
      · exact .inr ⟨hnone, e, by rw [hscan]; rfl⟩
    · exact .inr ⟨openAfter_eq_none_of_le hnone (by omega), e, by rw [hstep]; rfl⟩

end Steps

section Whole
variable (property : String) {cs : List Char}

/-- A whole scan stops where the value ends, with the brackets that are open there, or fails if brackets before that
place do not close each other. -/
theorem scanValue_eq (hno : ∀ i < valueExtent cs, ¬ OpensHeredoc cs i) :
    (∃ stack, openAfter (bracketsBefore cs (valueExtent cs)) = some stack ∧
        scanValue property {} cs = .ok (cs.take (valueExtent cs), stack)) ∨
      (openAfter (bracketsBefore cs (valueExtent cs)) = none ∧ ∃ e, scanValue property {} cs = .error e) := by
  obtain ⟨k, hextent, hends, hbefore⟩ | ⟨hextent, hnever⟩ := valueExtent_cases cs
  · -- the scan comes to the last character of the value, and is done there
    have hk : k < cs.length := by
      by_contra hk
      exact not_endsValue_of_length_lt (by omega) hends
    obtain ⟨c, rest, hrest⟩ : ∃ c rest, cs.drop k = c :: rest :=
      List.exists_cons_of_ne_nil fun hnil => by have := List.drop_eq_nil_iff.mp hnil; omega
    rw [hextent] at hno ⊢
    obtain ⟨s, hs, hscan⟩ | ⟨hnone, e, hscan⟩ := (Scan.reads_start cs).run property (Nat.zero_le k) (by omega) hbefore
      fun j hj => hno j (by omega)
    · rw [List.drop_zero, List.drop_zero, hrest, scanValue_cons hs.skip] at hscan
      obtain ⟨s', hstep, hs'⟩ | ⟨⟨e, hstep⟩, hnone⟩ := hs.step property hrest (hno k (by omega))
      · rw [hstep, ok_bind, decide_eq_true hends] at hscan
        refine .inl ⟨s'.brackets, hs'.brackets, hscan.trans ?_⟩
        rw [List.take_add_one, getElem?_of_drop_eq_cons hrest]
        rfl
      · exact .inr ⟨hnone, e, by rw [hscan, hstep]; rfl⟩
    · exact .inr ⟨openAfter_eq_none_of_le hnone (Nat.le_succ k), e, hscan⟩
  · rw [hextent] at hno ⊢
    obtain ⟨s, hs, hscan⟩ | ⟨hnone, e, hscan⟩ := (Scan.reads_start cs).run property (Nat.zero_le _) (Nat.le_refl _)
      (fun j _ => hnever j) hno
    · rw [List.drop_zero, List.drop_zero, List.drop_length, List.take_length] at hscan
      refine .inl ⟨s.brackets, hs.brackets, hscan.trans ?_⟩
      simp [scanValue, readAfter, Except.map]
    · exact .inr ⟨hnone, e, hscan⟩

end Whole

section Whole
variable {property : String} {cs : List Char}

/-- A whole scan reads what the value extends over, and leaves open what is open at its end. -/
theorem scanValue_eq_ok_iff (hno : ¬ ['<', '<'] <:+: cs) {read stack : List Char} :
    scanValue property {} cs = .ok (read, stack) ↔
      read = cs.take (valueExtent cs) ∧ openAfter (bracketsBefore cs (valueExtent cs)) = some stack := by
  obtain ⟨open', hopen, hscan⟩ | ⟨hopen, e, hscan⟩ := scanValue_eq property fun i _ => not_opensHeredoc_of_absent hno i
  · rw [hopen, hscan]
    simp [eq_comm]
  · rw [hopen, hscan]
    simp

end Whole

end ModuleDocs.Hcl
