import Mathlib.Data.List.TakeWhile
import ModuleDocs.Proofs.Extent
import ModuleDocs.Proofs.Place

/-! # Values of properties

A property is assigned at the start of a line (`AssignedAt`); of several places the one with the fewest spaces counts,
and the earliest of those (`AssignedAt.IsChosen`). The value goes from the equals sign to where the text from that line
on ends a value (`valueExtent`), if the brackets up to there are well nested. -/
set_option autoImplicit false

namespace ModuleDocs.Hcl

open ModuleDocs.Text

/-! ## Places -/

/-- A place where a name is assigned: the text before its line, the number of spaces before it, the blank characters
between it and the equals sign, and the text after this sign. -/
structure AssignedAt (name cs : List Char) where
  before : List Char
  spaces : Nat
  gap : List Char
  value : List Char
  split : cs = before ++ (List.replicate spaces ' ' ++ name ++ gap ++ '=' :: value)
  lineStart : ∀ c ∈ before.getLast?, c = '\n'
  blank : ∀ c ∈ gap, isBlank c = true

variable {name cs : List Char}

/-- The text from the start of the line to the equals sign. -/
def AssignedAt.lead (m : AssignedAt name cs) : List Char := List.replicate m.spaces ' ' ++ name ++ m.gap ++ ['=']

def AssignedAt.text (m : AssignedAt name cs) : List Char := m.lead ++ m.value

/-- The text between the equals sign and the place where the value ends. -/
def AssignedAt.valueText (m : AssignedAt name cs) : List Char := (m.text.take (valueExtent m.text)).drop m.lead.length

/-- The place has the fewest spaces, and is the earliest of such places. -/
def AssignedAt.IsChosen (m : AssignedAt name cs) : Prop :=
  ∀ m' : AssignedAt name cs, m.spaces < m'.spaces ∨ m.spaces = m'.spaces ∧ m.before.length ≤ m'.before.length

theorem AssignedAt.eq_append (m : AssignedAt name cs) : cs = m.before ++ m.text := by
  rw [AssignedAt.text, AssignedAt.lead, List.append_assoc _ ['='], List.singleton_append]
  exact m.split

/-! ## Assignments in a text -/

theorem exists_cons_of_isPlainName (hname : isPlainName name = true) : ∃ c more, name = c :: more ∧ c ≠ ' ' := by
  have hspace : ' ' ∉ name := notMem_of_isPlainName hname (by decide)
  cases name with
  | nil => cases hname
  | cons c more => exact ⟨c, more, rfl, fun hc => hspace (by rw [hc]; exact List.mem_cons_self)⟩

theorem takeWhile_space (rest : List Char) :
    rest.takeWhile (· == ' ') = List.replicate (rest.takeWhile (· == ' ')).length ' ' := by
  rw [List.eq_replicate_iff]
  refine ⟨rfl, fun c hc => ?_⟩
  simpa using List.mem_takeWhile_imp hc

theorem exists_of_afterAssignment? {rest value : List Char} (h : afterAssignment? name rest = some value) :
    ∃ gap, rest = List.replicate (rest.takeWhile (· == ' ')).length ' ' ++ name ++ gap ++ '=' :: value ∧
      ∀ c ∈ gap, isBlank c = true := by
  unfold afterAssignment? at h
  dsimp only at h
  split at h
  · next hstart =>
    obtain ⟨after, hafter⟩ := List.isPrefixOf_iff_prefix.mp hstart
    rw [← hafter, List.drop_left] at h
    split at h
    · next value' hvalue =>
      cases h
      refine ⟨after.takeWhile isBlank, ?_, fun c hc => List.mem_takeWhile_imp hc⟩
      calc rest = rest.takeWhile (· == ' ') ++ rest.dropWhile (· == ' ') := List.takeWhile_append_dropWhile.symm
        _ = rest.takeWhile (· == ' ') ++ (name ++ (after.takeWhile isBlank ++ after.dropWhile isBlank)) := by
          rw [List.takeWhile_append_dropWhile (l := after), hafter]
        _ = _ := by
          rw [hvalue, ← takeWhile_space]
          simp only [List.append_assoc]
    · cases h
  · cases h

theorem takeWhile_lead (hname : isPlainName name = true) (spaces : Nat) (rest : List Char) :
    (List.replicate spaces ' ' ++ name ++ rest).takeWhile (· == ' ') = List.replicate spaces ' ' := by
  obtain ⟨c, more, rfl, hc⟩ := exists_cons_of_isPlainName hname
  rw [List.append_assoc, List.takeWhile_append_of_pos (by simp)]
  simp [hc]

theorem afterAssignment?_lead (hname : isPlainName name = true) (spaces : Nat) {gap : List Char}
    (hgap : ∀ c ∈ gap, isBlank c = true) (value : List Char) :
    afterAssignment? name (List.replicate spaces ' ' ++ name ++ gap ++ '=' :: value) = some value := by
  have hrest : (List.replicate spaces ' ' ++ name ++ gap ++ '=' :: value).dropWhile (· == ' ') =
      name ++ (gap ++ '=' :: value) := by
    obtain ⟨c, more, rfl, hc⟩ := exists_cons_of_isPlainName hname
    rw [List.append_assoc, List.append_assoc, List.dropWhile_append_of_pos (by simp)]
    simp [hc]
  have hvalue : (gap ++ '=' :: value).dropWhile isBlank = '=' :: value := by
    rw [List.dropWhile_append_of_pos hgap, List.dropWhile_cons_of_neg (by decide)]
  unfold afterAssignment?
  dsimp only
  rw [hrest, if_pos (List.isPrefixOf_iff_prefix.mpr (List.prefix_append _ _)), List.drop_left, hvalue]
  rfl

theorem mem_assignmentsFrom_cons {lineStart : Bool} {offset : Nat} {c : Char} {a : Assignment} :
    a ∈ assignmentsFrom name lineStart offset (c :: cs) ↔
      lineStart = true ∧ (afterAssignment? name (c :: cs)).isSome = true ∧
          a = ⟨offset, ((c :: cs).takeWhile (· == ' ')).length⟩ ∨
        a ∈ assignmentsFrom name (c == '\n') (offset + 1) cs := by
  rw [assignmentsFrom]
  split
  · next hstart =>
    rw [Bool.and_eq_true] at hstart
    simp [hstart]
  · next hstart =>
    rw [Bool.and_eq_true, not_and] at hstart
    simp +contextual [hstart]

/-- The assignments in a text are the splits of it at a start of a line where an assignment follows. -/
theorem mem_assignmentsFrom {lineStart : Bool} {offset : Nat} {a : Assignment} :
    a ∈ assignmentsFrom name lineStart offset cs ↔
      ∃ before rest, cs = before ++ rest ∧ (before.getLast?.map (· == '\n')).getD lineStart = true ∧
        (afterAssignment? name rest).isSome = true ∧
        a = ⟨offset + before.length, (rest.takeWhile (· == ' ')).length⟩ := by
  induction cs generalizing lineStart offset with
  | nil =>
    have hnil : afterAssignment? name [] = none := by cases name <;> rfl
    refine ⟨fun h => absurd h List.not_mem_nil, ?_⟩
    rintro ⟨before, rest, hsplit, -, hrest, -⟩
    rw [(List.append_eq_nil_iff.mp hsplit.symm).2, hnil] at hrest
    cases hrest
  | cons c cs ih =>
    rw [mem_assignmentsFrom_cons, ih]
    constructor
    · rintro (⟨hstart, hassigned, rfl⟩ | ⟨before, rest, rfl, hlast, hassigned, rfl⟩)
      · exact ⟨[], c :: cs, rfl, hstart, hassigned, rfl⟩
      · refine ⟨c :: before, rest, rfl, ?_, hassigned, ?_⟩
        · rw [List.getLast?_cons]
          cases hbefore : before.getLast? <;> simpa [hbefore] using hlast
        · rw [List.length_cons, Nat.add_assoc, Nat.add_comm 1]
    · rintro ⟨before, rest, hsplit, hlast, hassigned, rfl⟩
      cases before with
      | nil =>
        cases hsplit
        exact .inl ⟨hlast, hassigned, rfl⟩
      | cons d before =>
        cases hsplit
        refine .inr ⟨before, rest, rfl, ?_, hassigned, ?_⟩
        · rw [List.getLast?_cons] at hlast
          cases hbefore : before.getLast? <;> simpa [hbefore] using hlast
        · rw [List.length_cons, Nat.add_assoc, Nat.add_comm 1]

theorem pairwise_assignmentsFrom (name cs : List Char) (lineStart : Bool) (offset : Nat) :
    (assignmentsFrom name lineStart offset cs).Pairwise (·.offset < ·.offset) := by
  induction cs generalizing lineStart offset with
  | nil => exact .nil
  | cons c cs ih =>
    have hlater := ih (c == '\n') (offset + 1)
    rw [assignmentsFrom]
    split
    · refine List.pairwise_cons.mpr ⟨fun a ha => ?_, hlater⟩
      obtain ⟨before, rest, -, -, -, rfl⟩ := mem_assignmentsFrom.mp ha
      dsimp only
      omega
    · exact hlater

/-! ## The chosen place -/

theorem mem_of_firstLeast? {α : Type} {key : α → Nat} {l : List α} {a : α} (h : firstLeast? key l = some a) :
    a ∈ l := by
  induction l with
  | nil => cases h
  | cons b l ih =>
    rw [firstLeast?] at h
    split at h
    · cases h
      exact List.mem_cons_self
    · next c hc =>
      split at h
      · cases h
        exact List.mem_cons_self
      · exact List.mem_cons_of_mem b (ih (hc.trans h))

theorem leastIndented?_eq {l : List Assignment} (hl : l.Pairwise (·.offset < ·.offset)) {a : Assignment} (ha : a ∈ l)
    (hleast : ∀ b ∈ l, a.indent < b.indent ∨ a.indent = b.indent ∧ a.offset ≤ b.offset) :
    leastIndented? l = some a := by
  unfold leastIndented?
  induction l with
  | nil => cases ha
  | cons b l ih =>
    rw [List.pairwise_cons] at hl
    rw [firstLeast?]
    obtain rfl | ha := List.mem_cons.mp ha
    · split
      · rfl
      · next c hc =>
        have hac := hleast c (List.mem_cons_of_mem a (mem_of_firstLeast? hc))
        rw [if_pos (by omega)]
    · have hb := hleast b List.mem_cons_self
      have hba := hl.1 a ha
      rw [ih hl.2 ha fun c hc => hleast c (List.mem_cons_of_mem b hc)]
      dsimp only
      rw [if_neg (by omega)]

theorem AssignedAt.mem (hname : isPlainName name = true) (m : AssignedAt name cs) :
    ⟨m.before.length, m.spaces⟩ ∈ assignmentsFrom name true 0 cs := by
  refine mem_assignmentsFrom.mpr ⟨m.before, _, m.split, ?_, ?_, ?_⟩
  · cases hlast : m.before.getLast? with
    | none => rfl
    | some c => simp [m.lineStart c hlast]
  · rw [afterAssignment?_lead hname m.spaces m.blank, Option.isSome_some]
  · rw [List.append_assoc _ m.gap, takeWhile_lead hname, List.length_replicate, Nat.zero_add]

theorem exists_assignedAt_of_mem {a : Assignment} (h : a ∈ assignmentsFrom name true 0 cs) :
    ∃ m : AssignedAt name cs, a = ⟨m.before.length, m.spaces⟩ := by
  obtain ⟨before, rest, hcs, hlast, hrest, rfl⟩ := mem_assignmentsFrom.mp h
  obtain ⟨value, hvalue⟩ := Option.isSome_iff_exists.mp hrest
  obtain ⟨gap, hsplit, hgap⟩ := exists_of_afterAssignment? hvalue
  have hlineStart : ∀ c ∈ before.getLast?, c = '\n' := by
    intro c hc
    rw [Option.mem_def] at hc
    simpa [hc] using hlast
  exact ⟨⟨before, _, gap, value, hsplit ▸ hcs, hlineStart, hgap⟩, by rw [Nat.zero_add]⟩

theorem AssignedAt.IsChosen.leastIndented? (hname : isPlainName name = true) {m : AssignedAt name cs}
    (hm : m.IsChosen) :
    Hcl.leastIndented? (assignmentsFrom name true 0 cs) = some ⟨m.before.length, m.spaces⟩ := by
  refine leastIndented?_eq (pairwise_assignmentsFrom name cs true 0) (m.mem hname) fun b hb => ?_
  obtain ⟨m', rfl⟩ := exists_assignedAt_of_mem hb
  exact hm m'

/-! ## The value -/

theorem length_le_valueExtent {lead : List Char} (hlead : '\n' ∉ lead) (rest : List Char) :
    lead.length ≤ valueExtent (lead ++ rest) := by
  have hbefore : ∀ j ≤ lead.length, ¬ EndsValue (lead ++ rest) j := by
    intro j hj hends
    cases j with
    | zero => exact hends
    | succ j =>
      have htake : (lead ++ rest).take (j + 1) = lead.take (j + 1) := List.take_append_of_le_length hj
      have hnewline : '\n' ∈ (lead ++ rest).take (j + 1) := by
        obtain ⟨-, -, hj | ⟨-, hj⟩⟩ := hends
        · exact (mem_take_succ hj '\n').mpr (.inr rfl)
        · exact (List.take_subset_take_left _ (Nat.le_succ j)) hj
      rw [htake] at hnewline
      exact hlead (List.mem_of_mem_take hnewline)
  cases hlength : lead.length with
  | zero => exact Nat.zero_le _
  | succ n =>
    refine lt_valueExtent ?_ fun j hj => hbefore j (by omega)
    rw [List.length_append]
    omega

theorem trim_trimStart (l : List Char) : trim (trimStart l) = trim l := by
  rw [trim, trim, trimStart_trimStart]

section Found
variable {property text : String} (m : AssignedAt property.toList text.toList)

theorem AssignedAt.take_valueExtent (m : AssignedAt name cs) (hlead : '\n' ∉ m.lead) :
    m.text.take (valueExtent m.text) = m.lead ++ m.valueText := by
  have hle : m.lead.length ≤ valueExtent m.text := length_le_valueExtent hlead m.value
  have htake : m.text.take m.lead.length = m.lead := List.take_left
  calc m.text.take (valueExtent m.text)
      = (m.text.take (valueExtent m.text)).take m.lead.length ++ m.valueText := (List.take_append_drop _ _).symm
    _ = m.lead ++ m.valueText := by rw [List.take_take, Nat.min_eq_left hle, htake]

theorem AssignedAt.newline_notMem_lead (hname : isPlainName name = true) (m : AssignedAt name cs)
    (hgap : '\n' ∉ m.gap) : '\n' ∉ m.lead := by
  have hnewline : '\n' ∉ name := notMem_of_isPlainName hname (by decide)
  simp [AssignedAt.lead, hgap, hnewline]

theorem AssignedAt.notMem_lead (hname : isPlainName name = true) (m : AssignedAt name cs) {c : Char}
    (hc : (isWord c || continuesName c || c == '-') = false) (hblank : isBlank c = false) (hsign : c ≠ '=') :
    c ∉ m.lead := by
  have hgap : c ∉ m.gap := fun hmem => by
    rw [m.blank c hmem] at hblank
    cases hblank
  have hspace : c ≠ ' ' := by
    rintro rfl
    cases hblank
  simp [AssignedAt.lead, hgap, hspace, hsign, notMem_of_isPlainName hname hc]

theorem AssignedAt.dropAssignment_eq (hname : isPlainName property.toList = true) (rest : List Char) :
    dropAssignment property (m.lead ++ rest) = .ok (trimStart rest) := by
  rw [dropAssignment, if_pos hname, AssignedAt.lead, List.append_assoc _ ['='], List.singleton_append,
    afterAssignment?_lead hname m.spaces m.blank]
  rfl

theorem AssignedAt.findProperty_eq (hname : isPlainName property.toList = true) (hm : m.IsChosen) :
    findProperty text property = (do
      let (found, brackets) ← scanValue property {} m.text
      if !brackets.isEmpty then .error (.unmatchedBrackets property)
      return String.ofList (trim (← dropAssignment property found))) := by
  have htext : text.toList.drop m.before.length = m.text := (congrArg _ m.eq_append).trans List.drop_left
  rw [findProperty, assignments, if_pos hname]
  simp only [bind, Except.bind, hm.leastIndented? hname, htext]

/-- The value of a property is what stands between the equals sign of the chosen place and the first place where all is
closed again, without the blank characters around it. Where the brackets up to there are not well nested there is no
value. -/
theorem findProperty_eq_valueText (hname : isIdentifier property = true) (hno : ¬ ['<', '<'] <:+: text.toList)
    (hm : m.IsChosen) (hgap : '\n' ∉ m.gap) :
    (WellNested (bracketsBefore m.text (valueExtent m.text)) →
        findProperty text property = .ok (String.ofList (trim m.valueText))) ∧
      (¬ WellNested (bracketsBefore m.text (valueExtent m.text)) → ∃ e, findProperty text property = .error e) := by
  have hplain := isPlainName_of_isIdentifier hname
  have hno' : ¬ ['<', '<'] <:+: m.text := by
    rw [m.eq_append] at hno
    exact fun h => hno (h.trans (List.suffix_append _ _).isInfix)
  rw [m.findProperty_eq hplain hm, wellNested_iff]
  constructor
  · intro hopen
    have hscan : scanValue property {} m.text = .ok (m.lead ++ m.valueText, []) :=
      (scanValue_eq_ok_iff hno').mpr ⟨(m.take_valueExtent (m.newline_notMem_lead hplain hgap)).symm, hopen⟩
    rw [hscan]
    simp only [bind, Except.bind, m.dropAssignment_eq hplain, trim_trimStart]
    rfl
  · intro hopen
    cases hscan : scanValue property {} m.text with
    | error e => exact ⟨e, rfl⟩
    | ok found =>
      obtain ⟨read, stack⟩ := found
      obtain ⟨-, hstack⟩ := (scanValue_eq_ok_iff hno').mp hscan
      have hne : stack ≠ [] := fun h => hopen (h ▸ hstack)
      refine ⟨.unmatchedBrackets property, ?_⟩
      cases stack with
      | nil => exact absurd rfl hne
      | cons => rfl

theorem AssignedAt.isChosen_of_forall (hname : isPlainName name = true) {m : AssignedAt name cs}
    (h : ∀ a ∈ assignmentsFrom name true 0 cs,
      m.spaces < a.indent ∨ m.spaces = a.indent ∧ m.before.length ≤ a.offset) : m.IsChosen :=
  fun m' => h _ (m'.mem hname)

theorem findProperty_bracket_in_string :
    ¬ ['<', '<'] <:+: "  b=1\nb=[\n\"]\"]\n".toList ∧ findProperty "  b=1\nb=[\n\"]\"]\n" "b" = .ok "[\n\"]\"]" := by
  have hno : ¬ ['<', '<'] <:+: "  b=1\nb=[\n\"]\"]\n".toList := by decide
  let m : AssignedAt "b".toList "  b=1\nb=[\n\"]\"]\n".toList :=
    ⟨"  b=1\n".toList, 0, [], "[\n\"]\"]\n".toList, by decide, by simp, by simp⟩
  have hm : m.IsChosen := AssignedAt.isChosen_of_forall (by decide) (by decide)
  have hvalue : String.ofList (trim m.valueText) = "[\n\"]\"]" := by decide
  refine ⟨hno, ?_⟩
  rw [← hvalue]
  exact (findProperty_eq_valueText m (by decide) hno hm (by decide)).1 (by decide)

end Found

end ModuleDocs.Hcl
