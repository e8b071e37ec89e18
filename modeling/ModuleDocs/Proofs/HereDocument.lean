import ModuleDocs.Proofs.Verbatim

/-! # Here documents

A scan inside a here document goes on to the line that is its name, and fails at a closing bracket before that
(`Scan.InHeredoc.exists_scanValue_iff`). The name is what the scan takes for it at the sign (`signName`). So whether a
property is found whose value is a here document depends on the closing brackets in its body
(`exists_findProperty_heredoc_iff`); opening brackets, quotes and backslashes in it do not count. -/
set_option autoImplicit false

namespace ModuleDocs.Hcl

open ModuleDocs.Text

/-! ## Inside a here document -/

/-- The state of a scan in a here document, with no brackets open before it. -/
structure Scan.InHeredoc (name : String) (s : Scan) : Prop where
  heredoc : s.heredoc = some name.toList
  brackets : s.brackets = []
  quoted : s.quoted = false
  skip : s.skip = 0

section Heredoc
variable {property name : String} {s : Scan}

theorem eq_of_newline_isPrefix {a b rest : List Char} (ha : '\n' ∉ a) (hb : '\n' ∉ b)
    (h : a ++ ['\n'] <+: b ++ '\n' :: rest) : a = b := by
  have htake : ∀ {l : List Char}, '\n' ∉ l → ∀ more, (l ++ '\n' :: more).takeWhile (· != '\n') = l := by
    intro l hl more
    rw [List.takeWhile_append_of_pos, List.takeWhile_cons_of_neg (by simp), List.append_nil]
    intro c hc
    simp only [bne_iff_ne]
    exact fun e => hl (e ▸ hc)
  obtain ⟨more, hmore⟩ := h
  rw [List.append_assoc, List.singleton_append] at hmore
  rw [← htake ha more, hmore, htake hb]

/-- The state of a scan after a character that is read as it is. -/
def Scan.after (s : Scan) (c : Char) : Scan :=
  { s with last := c, escaped := c == '\\' && !s.escaped, lineEnded := s.lineEnded || c == '\n' }

theorem Scan.InHeredoc.after (h : s.InHeredoc name) (c : Char) : (s.after c).InHeredoc name :=
  ⟨h.heredoc, h.brackets, h.quoted, h.skip⟩

variable (property) in
/-- A character in a here document is read as it is, unless it is a closing bracket. -/
theorem Scan.InHeredoc.scanValue_cons (h : s.InHeredoc name) {c : Char} {rest : List Char}
    (hend : s.atHeredocEnd (c :: rest) = none) :
    scanValue property s (c :: rest) =
      if isClosing c then .error .strayBracket else readAfter [c] (scanValue property (s.after c) rest) := by
  have hstep : s.step property c rest =
      if isClosing c then .error .strayBracket else .ok { text := [c], state := s.after c } := by
    unfold Scan.step
    simp only [h.heredoc, h.quoted, h.brackets, hend, Option.isNone_some, Bool.and_false, Bool.false_and,
      Bool.not_false, Bool.and_true, Bool.false_eq_true, if_false]
    split
    · rfl
    · by_cases hnewline : c = '\n' <;> simp [hnewline, Scan.after, h.heredoc, h.quoted, h.brackets]
  rw [Hcl.scanValue_cons h.skip, hstep]
  split
  · rfl
  · rfl

theorem Scan.InHeredoc.atHeredocEnd (h : s.InHeredoc name) (hname : '\n' ∉ name.toList) {line : List Char}
    (hline : '\n' ∉ line) (rest : List Char) :
    s.atHeredocEnd (line ++ '\n' :: rest) =
      if s.last = '\n' ∧ line = name.toList then some name.toList else none := by
  have hiff : (name.toList ++ ['\n']).isPrefixOf (line ++ '\n' :: rest) = true ↔ line = name.toList := by
    rw [List.isPrefixOf_iff_prefix]
    constructor
    · exact fun hstart => (eq_of_newline_isPrefix hname hline hstart).symm
    · rintro rfl
      exact ⟨rest, by simp⟩
  unfold Scan.atHeredocEnd
  simp only [h.heredoc, h.quoted, Bool.not_false, Bool.true_and]
  by_cases hstart : line = name.toList
  · simp [hstart]
  · simp [hstart, Bool.eq_false_iff.mpr (mt hiff.mp hstart)]

variable (property) in
/-- A line in a here document that does not end it is read as it is, or fails at its first closing bracket. -/
theorem Scan.InHeredoc.scanLine (h : s.InHeredoc name) (hname : '\n' ∉ name.toList) {line : List Char}
    (hline : '\n' ∉ line) (hother : s.last = '\n' → line ≠ name.toList) (rest : List Char) :
    (line.any isClosing = true ∧ ∃ e, scanValue property s (line ++ '\n' :: rest) = .error e) ∨
      (line.any isClosing = false ∧ ∃ s', s'.InHeredoc name ∧ s'.last = '\n' ∧ s'.lineEnded = true ∧
        scanValue property s (line ++ '\n' :: rest) = readAfter (line ++ ['\n']) (scanValue property s' rest)) := by
  induction line generalizing s with
  | nil =>
    have hend := h.atHeredocEnd hname hline rest
    rw [if_neg fun hends => hother hends.1 hends.2] at hend
    have hscan := h.scanValue_cons property hend
    rw [if_neg (by decide)] at hscan
    exact .inr ⟨rfl, s.after '\n', h.after '\n', rfl, by simp [Scan.after], hscan⟩
  | cons c line ih =>
    have hend := h.atHeredocEnd hname hline rest
    rw [if_neg fun hends => hother hends.1 hends.2, List.cons_append] at hend
    have hscan := h.scanValue_cons property hend
    rw [List.mem_cons, not_or] at hline
    rw [List.cons_append, hscan]
    by_cases hc : isClosing c = true
    · rw [if_pos hc]
      exact .inl ⟨by simp [hc], _, rfl⟩
    · rw [if_neg hc]
      obtain ⟨hclosing, e, he⟩ | ⟨hclosing, s', hs', hlast, hended, he⟩ :=
        ih (h.after c) hline.2 fun hlast => absurd hlast.symm hline.1
      · exact .inl ⟨by simp [hclosing], e, by rw [he]; rfl⟩
      · exact .inr ⟨by simp [hc, hclosing], s', hs', hlast, hended, by rw [he, readAfter_readAfter]; rfl⟩

theorem scanValue_skip (property : String) {skipped : List Char} (hskip : s.skip = skipped.length) (rest : List Char) :
    scanValue property s (skipped ++ rest) =
      scanValue property { s with skip := 0, last := skipped.getLastD s.last } rest := by
  induction skipped generalizing s with
  | nil =>
    obtain ⟨brackets, lineEnded, quoted, heredoc, escaped, last, skip⟩ := s
    obtain rfl : skip = 0 := hskip
    rfl
  | cons c skipped ih =>
    rw [List.length_cons] at hskip
    rw [List.cons_append, scanValue, hskip]
    dsimp only
    rw [ih rfl]
    cases skipped <;> rfl

theorem scanValue_skip_all (property : String) {cs : List Char} (hskip : s.skip = cs.length) :
    scanValue property s cs = .ok ([], s.brackets) := by
  have h := scanValue_skip property hskip []
  rwa [List.append_nil] at h

theorem exists_readAfter_iff {front stack : List Char} {result : Except Error (List Char × List Char)} :
    (∃ read, readAfter front result = .ok (read, stack)) ↔ ∃ read, result = .ok (read, stack) := by
  cases result with
  | error e => simp [readAfter, Except.map]
  | ok found => simp [readAfter, Except.map, Prod.ext_iff]

/-- The line that is the name ends a here document, and the scan if a line has ended before. -/
theorem Scan.InHeredoc.exists_scanValue_end (h : s.InHeredoc name) (hname : '\n' ∉ name.toList) (hne : name ≠ "")
    (hlast : s.last = '\n') {rest : List Char} (hended : s.lineEnded = true ∨ rest.length = 1) :
    ∃ read, scanValue property s (name.toList ++ '\n' :: rest) = .ok (read, []) := by
  have hend := h.atHeredocEnd hname hname rest
  rw [if_pos ⟨hlast, rfl⟩] at hend
  obtain ⟨c, more, hmore⟩ : ∃ c more, name.toList = c :: more :=
    List.exists_cons_of_ne_nil (by simpa using hne)
  rw [hmore, List.cons_append] at hend ⊢
  have hstep : s.step property c (more ++ '\n' :: rest) =
      .ok { text := [c]
            state := { s with
              last := c, escaped := c == '\\' && !s.escaped, heredoc := none, skip := (c :: more).length + 1 }
            done := s.lineEnded } := by
    unfold Scan.step
    simp [h.heredoc, hend]
  rw [Hcl.scanValue_cons h.skip, hstep, ok_bind]
  obtain hended | hrest := hended
  · exact ⟨[c], by simp [hended, h.brackets]⟩
  · cases hended : s.lineEnded with
    | true => exact ⟨[c], by simp [h.brackets]⟩
    | false =>
      -- All that is left is passed over.
      have hskip : (c :: more).length + 1 = (more ++ '\n' :: rest).length := by
        rw [List.length_append, List.length_cons, List.length_cons, hrest]
      simp only [Bool.false_eq_true, if_false]
      rw [exists_readAfter_iff]
      exact ⟨[], (scanValue_skip_all property hskip).trans (by rw [h.brackets])⟩

variable (property) in
/-- The brace that closes a block fails a scan that is still in a here document. -/
theorem Scan.InHeredoc.scanValue_brace (h : s.InHeredoc name) (hne : name ≠ "") :
    scanValue property s ['\x7d'] = .error .strayBracket := by
  have hshort : (name.toList ++ ['\n']).isPrefixOf ['\x7d'] = false := by
    rw [Bool.eq_false_iff, Ne, List.isPrefixOf_iff_prefix]
    intro hstart
    have hlength := hstart.length_le
    rw [List.length_append, List.length_singleton, List.length_singleton] at hlength
    exact hne (String.toList_inj.mp (List.length_eq_zero_iff.mp (by omega)))
  have hend : s.atHeredocEnd ['\x7d'] = none := by
    unfold Scan.atHeredocEnd
    simp [h.heredoc, hshort]
  rw [h.scanValue_cons property hend, if_pos (by decide)]

theorem exists_cut_cons_iff {p : String → Prop} {l : String} (hl : l ≠ name) {ls : List String} :
    (∃ inside after, l :: ls = inside ++ name :: after ∧ ∀ l ∈ inside, p l) ↔
      p l ∧ ∃ inside after, ls = inside ++ name :: after ∧ ∀ l ∈ inside, p l := by
  constructor
  · rintro ⟨inside, after, hcut, hinside⟩
    cases inside with
    | nil => exact absurd (List.cons.inj hcut).1 hl
    | cons first inside =>
      obtain ⟨rfl, hrest⟩ := List.cons.inj hcut
      rw [List.forall_mem_cons] at hinside
      exact ⟨hinside.1, inside, after, hrest, hinside.2⟩
  · rintro ⟨hp, inside, after, rfl, hinside⟩
    exact ⟨l :: inside, after, rfl, List.forall_mem_cons.mpr ⟨hp, hinside⟩⟩

/-- The body of a here document is read if a line with its name follows, and no closing bracket stands before that. -/
theorem Scan.InHeredoc.exists_scanValue_iff (h : s.InHeredoc name) (hname : '\n' ∉ name.toList) (hne : name ≠ "")
    (hlast : s.last = '\n') {ls : List String} (hls : ∀ l ∈ ls, '\n' ∉ l.toList)
    (hended : s.lineEnded = true ∨ ∀ more, ls = name :: more → more = []) :
    (∃ read, scanValue property s (joinLines ((ls ++ ["\x7d"]).map String.toList)) = .ok (read, [])) ↔
      ∃ inside after, ls = inside ++ name :: after ∧ ∀ l ∈ inside, l.toList.any isClosing = false := by
  induction ls generalizing s with
  | nil =>
    have hscan := h.scanValue_brace property hne
    simp only [List.nil_append, List.map_cons, List.map_nil, joinLines_singleton]
    constructor
    · rintro ⟨read, hread⟩
      cases hread.symm.trans hscan
    · rintro ⟨inside, after, hcut, -⟩
      cases inside <;> cases hcut
  | cons l ls ih =>
    rw [List.forall_mem_cons] at hls
    have hne' : (ls ++ ["\x7d"]).map String.toList ≠ [] := by simp
    rw [List.cons_append, List.map_cons, joinLines_cons _ hne']
    by_cases hl : l = name
    · subst hl
      refine ⟨fun _ => ⟨[], ls, rfl, by simp⟩, fun _ => h.exists_scanValue_end hname hne hlast ?_⟩
      refine hended.imp_right fun hmore => ?_
      rw [hmore ls rfl]
      rfl
    · rw [exists_cut_cons_iff hl]
      obtain ⟨hclosing, e, hscan⟩ | ⟨hclosing, s', hs', hlast', hended', hscan⟩ :=
        h.scanLine property hname hls.1 (fun _ e => hl (String.toList_inj.mp e))
          (joinLines ((ls ++ ["\x7d"]).map String.toList))
      · constructor
        · rintro ⟨read, hread⟩
          cases hread.symm.trans hscan
        · rintro ⟨hopen, -⟩
          cases hclosing.symm.trans hopen
      · rw [hscan, exists_readAfter_iff, ih hs' hlast' hls.2 (.inl hended'), and_iff_right hclosing]

end Heredoc

/-! ## Up to the sign -/

/-- No quotes, brackets or line ends: such a character changes nothing about the places after it. -/
def isInert (c : Char) : Bool := c != '"' && c != '\n' && !isOpening c && !isClosing c

theorem isInert_iff {c : Char} :
    isInert c = true ↔ c ≠ '"' ∧ c ≠ '\n' ∧ isOpening c = false ∧ isClosing c = false := by
  simp [isInert, and_assoc]

theorem isInert_of_isPlainName {cs : List Char} (h : isPlainName cs = true) : ∀ c ∈ cs, isInert c = true := by
  intro c hc
  have hne : ∀ d, (isWord d || continuesName d || d == '-') = false → c ≠ d :=
    fun d hd e => notMem_of_isPlainName h hd (e ▸ hc)
  have hopening : isOpening c = false := by
    simp [isOpening, hne '\x7b' (by decide), hne '[' (by decide), hne '(' (by decide)]
  have hclosing : isClosing c = false := by
    unfold isClosing opening?
    split
    · exact absurd rfl (hne '\x7d' (by decide))
    · exact absurd rfl (hne ']' (by decide))
    · exact absurd rfl (hne ')' (by decide))
    · rfl
  exact isInert_iff.mpr ⟨hne '"' (by decide), hne '\n' (by decide), hopening, hclosing⟩

section Inert
variable {front rest : List Char} {j : Nat}

theorem exists_getElem?_append (hj : j < front.length) (rest : List Char) :
    ∃ c ∈ front, (front ++ rest)[j]? = some c :=
  ⟨front[j], List.getElem_mem hj, by rw [List.getElem?_append_left hj, List.getElem?_eq_getElem hj]⟩

theorem not_opensHeredoc_of_char {cs : List Char} {c : Char} (hc : cs[j]? = some c) (hne : c ≠ '<') :
    ¬ OpensHeredoc cs j := by
  rintro ⟨-, hstart⟩
  obtain ⟨sign, hsign⟩ := Option.isSome_iff_exists.mp hstart
  obtain ⟨d, more, hdrop, -⟩ := exists_of_heredocStart? hsign
  exact hne (Option.some.inj (hc.symm.trans (getElem?_of_drop_eq_cons hdrop)))

theorem not_opensHeredoc_of_notMem (hangle : '<' ∉ front) (rest : List Char) (hj : j < front.length) :
    ¬ OpensHeredoc (front ++ rest) j := by
  obtain ⟨c, hc, hget⟩ := exists_getElem?_append hj rest
  exact not_opensHeredoc_of_char hget fun e => hangle (e ▸ hc)

theorem place_of_inert (hfront : ∀ c ∈ front, isInert c = true) (rest : List Char) (hj : j ≤ front.length) :
    ¬ InString (front ++ rest) j ∧ bracketsBefore (front ++ rest) j = [] := by
  induction j with
  | zero => exact ⟨by simp [InString], rfl⟩
  | succ j ih =>
    obtain ⟨hout, hbrackets⟩ := ih (by omega)
    obtain ⟨c, hc, hget⟩ := exists_getElem?_append hj rest
    obtain ⟨hquote, -, hopening, hclosing⟩ := isInert_iff.mp (hfront c hc)
    have hactive : ¬ IsActiveQuote (front ++ rest) j := fun h => hquote (Option.some.inj (hget.symm.trans h.1))
    refine ⟨mt (inString_succ_of_not_active hactive).mp hout, ?_⟩
    rw [bracketsBefore_succ_of_not_bracket hget (by rw [hopening, hclosing]; rfl), hbrackets]

theorem not_endsValue_of_inert (hfront : ∀ c ∈ front, isInert c = true) (hj : j ≤ front.length) :
    ¬ EndsValue (front ++ rest) j := by
  cases j with
  | zero => exact fun h => h
  | succ j =>
    obtain ⟨c, hc, hget⟩ := exists_getElem?_append hj rest
    obtain ⟨-, hnewline, -, hclosing⟩ := isInert_iff.mp (hfront c hc)
    exact not_endsValue_of_char hget hclosing hnewline

/-- A scan over inert characters reads them as they are, and no bracket is open behind them. -/
theorem exists_scanValue_inert (property : String) (hfront : ∀ c ∈ front, isInert c = true)
    (hno : ∀ j < front.length, ¬ OpensHeredoc (front ++ rest) j) :
    ∃ s : Scan, s.Reads (front ++ rest) front.length ∧ s.brackets = [] ∧
      scanValue property {} (front ++ rest) = readAfter front (scanValue property s rest) := by
  have hbrackets : bracketsBefore (front ++ rest) front.length = [] :=
    (place_of_inert hfront rest (Nat.le_refl _)).2
  obtain ⟨s, hs, hscan⟩ | ⟨hnone, -⟩ := (Scan.reads_start (front ++ rest)).run property (Nat.zero_le front.length)
    (by simp) (fun j hj => not_endsValue_of_inert hfront hj) hno
  · refine ⟨s, hs, ?_, by simpa using hscan⟩
    have hopen := hs.brackets
    rw [hbrackets] at hopen
    exact (Option.some.inj hopen).symm
  · rw [hbrackets] at hnone
    cases hnone

/-- A line of inert characters in which no here document opens is the whole value. -/
theorem exists_scanValue_line (property : String) (hfront : ∀ c ∈ front, isInert c = true)
    (hno : ∀ j < front.length, ¬ OpensHeredoc (front ++ '\n' :: rest) j) :
    ∃ read, scanValue property {} (front ++ '\n' :: rest) = .ok (read, []) := by
  obtain ⟨s, hs, -, hscan⟩ := exists_scanValue_inert property hfront hno
  obtain ⟨hout, hbrackets⟩ := place_of_inert hfront ('\n' :: rest) (Nat.le_refl _)
  have hdrop : (front ++ '\n' :: rest).drop front.length = '\n' :: rest := List.drop_left
  have hget := getElem?_of_drop_eq_cons hdrop
  have hafter : bracketsBefore (front ++ '\n' :: rest) (front.length + 1) = [] := by
    rw [bracketsBefore_succ_of_not_bracket hget (by decide), hbrackets]
  have hends : EndsValue (front ++ '\n' :: rest) (front.length + 1) := ⟨hout, by rw [hafter]; rfl, .inl hget⟩
  rw [hscan, exists_readAfter_iff, scanValue_cons hs.skip]
  obtain ⟨s', hstep, hs'⟩ | ⟨-, hnone⟩ := hs.step property hdrop (not_opensHeredoc_of_char hget (by decide))
  · have hopen := hs'.brackets
    rw [hafter] at hopen
    rw [hstep, ok_bind, decide_eq_true hends, if_pos rfl, ← Option.some.inj hopen]
    exact ⟨['\n'], rfl⟩
  · rw [hafter] at hnone
    cases hnone

end Inert

/-! ## The sign -/

/-- The name that a scan gives to a here document: the word characters at the start of its name. -/
def signName (name : String) : String := String.ofList (name.toList.takeWhile isWord)

section Sign
variable {property name : String} {front : List Char}

theorem heredocStart?_name (hname : isIdentifier name = true) (rest : List Char) :
    heredocStart? ('<' :: '<' :: (name.toList ++ '\n' :: rest)) =
      if signName name = "" then none else some (2 + (signName name).toList.length, (signName name).toList) := by
  have hdash : ((name.toList ++ '\n' :: rest).head? == some '-') = false := by
    obtain ⟨c, more, hcons, hstarts, -⟩ := exists_cons_of_isIdentifier hname
    rw [hcons, List.cons_append, List.head?_cons, beq_eq_false_iff_ne]
    rintro ⟨⟩
    exact absurd hstarts (by decide)
  have htake : (name.toList ++ '\n' :: rest).takeWhile isWord = (signName name).toList := by
    have hnewline : ('\n' :: rest).takeWhile isWord = [] := List.takeWhile_cons_of_neg (by decide)
    rw [List.takeWhile_append, hnewline, signName, String.toList_ofList]
    split
    · next hall => rw [List.append_nil, (List.takeWhile_prefix isWord).eq_of_length hall]
    · rfl
  simp only [heredocStart?, hdash, Bool.false_eq_true, if_false, Nat.add_zero, htake, List.isEmpty_iff,
    String.toList_eq_nil_iff]

theorem not_opensHeredoc_line (hname : isIdentifier name = true) (hsign : signName name = "") (hangle : '<' ∉ front)
    (rest : List Char) {j : Nat} (hj : j < (front ++ '<' :: '<' :: name.toList).length) :
    ¬ OpensHeredoc (front ++ '<' :: '<' :: (name.toList ++ '\n' :: rest)) j := by
  by_cases hbefore : j < front.length
  · exact not_opensHeredoc_of_notMem hangle _ hbefore
  · obtain ⟨i, rfl⟩ := Nat.exists_eq_add_of_le (Nat.not_lt.mp hbefore)
    rintro ⟨-, hstart⟩
    rw [← List.drop_drop, List.drop_left] at hstart
    cases i with
    | zero =>
      rw [List.drop_zero, heredocStart?_name hname, if_pos hsign] at hstart
      cases hstart
    | succ i =>
      -- a second sign would need an angle bracket in the name
      obtain ⟨sign, hfound⟩ := Option.isSome_iff_exists.mp hstart
      obtain ⟨c, more, hdrop, -⟩ := exists_of_heredocStart? hfound
      have hsecond : (name.toList ++ '\n' :: rest).drop i = '<' :: c :: more := by
        have htail := congrArg List.tail hdrop
        rwa [List.tail_drop, List.drop_succ_cons, List.drop_succ_cons, List.tail_cons] at htail
      have hget : (name.toList ++ ['\n'] ++ rest)[i]? = some '<' := by
        rw [List.append_assoc]
        exact getElem?_of_drop_eq_cons hsecond
      have hi : i < (name.toList ++ ['\n']).length := by
        rw [List.length_append, List.length_cons, List.length_cons] at hj
        rw [List.length_append, List.length_singleton]
        omega
      obtain ⟨d, hd, hget'⟩ := exists_getElem?_append hi rest
      obtain rfl : d = '<' := Option.some.inj (hget'.symm.trans hget)
      have hplain : '<' ∉ name.toList := notMem_of_isPlainName (isPlainName_of_isIdentifier hname) (by decide)
      simp [hplain] at hd

variable (property) in
/-- A name that begins with no word character opens no here document: the value is the line. -/
theorem exists_scanValue_unsigned (hname : isIdentifier name = true) (hsign : signName name = "")
    (hfront : ∀ c ∈ front, isInert c = true) (hangle : '<' ∉ front) (rest : List Char) :
    ∃ read, scanValue property {} (front ++ '<' :: '<' :: (name.toList ++ '\n' :: rest)) = .ok (read, []) := by
  have hno : ∀ j < (front ++ '<' :: '<' :: name.toList).length, ¬ OpensHeredoc _ j :=
    fun j hj => not_opensHeredoc_line hname hsign hangle rest hj
  have hline : ∀ c ∈ front ++ '<' :: '<' :: name.toList, isInert c = true := by
    have hplain := isInert_of_isPlainName (isPlainName_of_isIdentifier hname)
    have hsign : isInert '<' = true := by decide
    simpa [or_imp, forall_and, hsign] using ⟨hfront, hplain⟩
  have hcut : front ++ '<' :: '<' :: (name.toList ++ '\n' :: rest) =
      (front ++ '<' :: '<' :: name.toList) ++ '\n' :: rest := by simp
  rw [hcut] at hno ⊢
  exact exists_scanValue_line property hline hno

variable (property) in
/-- Behind the sign of a here document a scan passes over the name that it takes, and one character more. -/
theorem exists_scanValue_behind_sign_iff {s : Scan} (h : Scan.InHeredoc (signName name) { s with skip := 0 })
    (hskip : s.skip = 2 + (signName name).toList.length) (hname : isPlainName name.toList = true)
    (hsign : signName name ≠ "") {ls : List String} (hls : ∀ l ∈ ls, '\n' ∉ l.toList)
    (hended : signName name = name → ∀ more, ls = name :: more → more = []) :
    (∃ read, scanValue property s
        ('<' :: (name.toList ++ '\n' :: joinLines ((ls ++ ["\x7d"]).map String.toList))) = .ok (read, [])) ↔
      ∃ inside after, ls = inside ++ signName name :: after ∧ ∀ l ∈ inside, l.toList.any isClosing = false := by
  have hnewline : '\n' ∉ name.toList := notMem_of_isPlainName hname (by decide)
  have hcut : name.toList = (signName name).toList ++ name.toList.dropWhile isWord := by
    rw [signName, String.toList_ofList, List.takeWhile_append_dropWhile]
  have hnewline' : '\n' ∉ (signName name).toList := fun hmem => hnewline (hcut ▸ List.mem_append_left _ hmem)
  have hin : ∀ last, Scan.InHeredoc (signName name) { s with skip := 0, last } :=
    fun _ => ⟨h.heredoc, h.brackets, h.quoted, rfl⟩
  have hpass : ∀ c rest, scanValue property s ('<' :: (signName name).toList ++ [c] ++ rest) =
      scanValue property { s with skip := 0, last := c } rest := by
    intro c rest
    have hskip' : s.skip = ('<' :: (signName name).toList ++ [c]).length := by
      rw [hskip, List.length_append, List.length_cons, List.length_singleton]
      omega
    rw [scanValue_skip property hskip', List.getLastD_concat]
  cases hmore : name.toList.dropWhile isWord with
  | nil =>
    rw [hmore, List.append_nil] at hcut
    have hself : signName name = name := String.toList_inj.mp hcut.symm
    have htext : ∀ rest, '<' :: (name.toList ++ '\n' :: rest) = '<' :: (signName name).toList ++ ['\n'] ++ rest := by
      simp [hself]
    rw [htext, hpass]
    refine (hin '\n').exists_scanValue_iff hnewline' hsign rfl hls (.inr fun more hcons => hended hself more ?_)
    rwa [hself] at hcons
  | cons c more =>
    rw [hmore] at hcut
    have hc : c ≠ '\n' := by
      rintro rfl
      exact hnewline (hcut ▸ List.mem_append_right _ List.mem_cons_self)
    have hrest : ∀ d ∈ more, d ∈ name.toList := fun d hd =>
      hcut ▸ List.mem_append_right _ (List.mem_cons_of_mem c hd)
    have htext : ∀ rest, '<' :: (name.toList ++ '\n' :: rest) =
        '<' :: (signName name).toList ++ [c] ++ (more ++ '\n' :: rest) := by
      intro rest
      rw [hcut]
      simp
    rw [htext, hpass]
    obtain ⟨hclosing, -⟩ | ⟨-, s', hs', hlast, hended', hscan⟩ := (hin c).scanLine property hnewline'
      (fun hmem => hnewline (hrest _ hmem)) (fun hlast => absurd hlast hc)
      (joinLines ((ls ++ ["\x7d"]).map String.toList))
    · obtain ⟨d, hd, hclosing⟩ := List.any_eq_true.mp hclosing
      have hinert := isInert_iff.mp (isInert_of_isPlainName hname d (hrest d hd))
      cases hclosing.symm.trans hinert.2.2.2
    · rw [hscan, exists_readAfter_iff]
      exact hs'.exists_scanValue_iff hnewline' hsign hlast hls (.inl hended')

variable (property) in
/-- A scan over a value that is a here document comes to its end if the scan takes no name for it, or if no closing
bracket stands before the first line with the name that it takes. -/
theorem exists_scanValue_heredoc_iff (hname : isIdentifier name = true) (hfront : ∀ c ∈ front, isInert c = true)
    (hangle : '<' ∉ front) {ls : List String} (hls : ∀ l ∈ ls, '\n' ∉ l.toList)
    (hended : signName name = name → ∀ more, ls = name :: more → more = []) :
    (∃ read, scanValue property {}
        (front ++ '<' :: '<' :: (name.toList ++ '\n' :: joinLines ((ls ++ ["\x7d"]).map String.toList))) =
          .ok (read, [])) ↔
      signName name = "" ∨
        ∃ inside after, ls = inside ++ signName name :: after ∧ ∀ l ∈ inside, l.toList.any isClosing = false := by
  by_cases hsign : signName name = ""
  · exact iff_of_true (exists_scanValue_unsigned property hname hsign hfront hangle _) (.inl hsign)
  · have hstart := heredocStart?_name hname (joinLines ((ls ++ ["\x7d"]).map String.toList))
    rw [if_neg hsign] at hstart
    generalize hrest : name.toList ++ '\n' :: joinLines ((ls ++ ["\x7d"]).map String.toList) = rest at hstart ⊢
    obtain ⟨s, hs, hbrackets, hscan⟩ := exists_scanValue_inert property hfront fun j hj =>
      not_opensHeredoc_of_notMem hangle ('<' :: '<' :: rest) hj
    have hout := (place_of_inert hfront ('<' :: '<' :: rest) (Nat.le_refl _)).1
    have hdrop : (front ++ '<' :: '<' :: rest).drop front.length = '<' :: '<' :: rest := List.drop_left
    rw [← hdrop] at hstart
    obtain ⟨more, hmore, hstep⟩ := hs.step_heredoc property hout hstart
    obtain rfl : '<' :: rest = more := (List.cons.inj (hdrop.symm.trans hmore)).2
    have hquoted : s.quoted = false := hs.quoted.trans (decide_eq_false hout)
    rw [hscan, exists_readAfter_iff, scanValue_cons hs.skip, hstep, ok_bind, if_neg Bool.false_ne_true,
      exists_readAfter_iff, ← hrest, or_iff_right hsign]
    refine exists_scanValue_behind_sign_iff property ?_ rfl (isPlainName_of_isIdentifier hname) hsign hls hended
    exact ⟨rfl, hbrackets, hquoted, rfl⟩

end Sign

/-! ## Blocks with a here document -/

section Places
variable {property text : String} {m : AssignedAt property.toList text.toList}

theorem AssignedAt.exists_findProperty_iff (hname : isPlainName property.toList = true) (hm : m.IsChosen) :
    (∃ value, findProperty text property = .ok value) ↔
      ∃ read, scanValue property {} m.text = .ok (read, []) := by
  constructor
  · rintro ⟨value, hvalue⟩
    obtain ⟨read, -, hscan, -⟩ := m.findProperty_eq_ok hname hm hvalue
    exact ⟨read, hscan⟩
  · rintro ⟨read, hscan⟩
    obtain ⟨rest, hrest⟩ : ∃ rest, dropAssignment property read = .ok rest := ⟨_, if_pos hname⟩
    refine ⟨String.ofList (trim rest), ?_⟩
    rw [m.findProperty_eq hname hm, hscan]
    simp only [bind, Except.bind, hrest]
    rfl

theorem AssignedAt.isChosen_of_forall_before (hname : isPlainName property.toList = true)
    (honly : ∀ m' : AssignedAt property.toList text.toList, m'.before = m.before) : m.IsChosen := by
  intro m'
  have hspaces : ∀ m : AssignedAt property.toList text.toList,
      m.text.takeWhile (· == ' ') = List.replicate m.spaces ' ' := by
    intro m
    rw [AssignedAt.text, AssignedAt.lead, List.append_assoc, List.append_assoc, takeWhile_lead hname]
  have htext : m'.text = m.text := by
    have hsplit := m'.eq_append.symm.trans m.eq_append
    rw [honly m'] at hsplit
    exact List.append_cancel_left hsplit
  have hlength := congrArg List.length ((hspaces m').symm.trans (htext ▸ hspaces m))
  rw [List.length_replicate, List.length_replicate] at hlength
  exact .inr ⟨hlength.symm, by rw [honly m']⟩

theorem AssignedAt.before_eq_take (hname : isPlainName property.toList = true) {n : Nat}
    (h : ∀ a ∈ assignmentsFrom property.toList true 0 text.toList, a.offset = n) : m.before = text.toList.take n := by
  obtain rfl : m.before.length = n := h _ (m.mem hname)
  exact ((congrArg _ m.eq_append).trans List.take_left).symm

end Places

/-- A block with a header line and one property, whose value is a here document. -/
def heredocBlock (header property name : String) (body : List String) : String :=
  unlines (header :: ("  " ++ property ++ " = <<" ++ name) :: (body ++ [name, "\x7d"]))

section Blocks
variable {header property name : String} {body : List String}

def heredocPlace (header property name : String) (body : List String) :
    AssignedAt property.toList (heredocBlock header property name body).toList where
  before := header.toList ++ ['\n']
  spaces := 2
  gap := [' ']
  value := ' ' :: '<' :: '<' :: (name.toList ++ '\n' :: joinLines ((body ++ [name] ++ ["\x7d"]).map String.toList))
  split := by
    have hne : ∀ last : List String, (body ++ name :: last).map String.toList ≠ [] := by simp
    rw [heredocBlock, unlines, String.toList_ofList, List.map_cons, List.map_cons,
      joinLines_cons _ (List.cons_ne_nil _ _), joinLines_cons _ (hne _)]
    simp
  lineStart := by simp
  blank := by
    intro c hc
    rw [List.mem_singleton.mp hc]
    rfl

/-- The text before the sign in the line of the property. -/
def heredocLead (property : String) : List Char := ' ' :: ' ' :: (property.toList ++ [' ', '=', ' '])

theorem text_heredocPlace :
    (heredocPlace header property name body).text = heredocLead property ++
      '<' :: '<' :: (name.toList ++ '\n' :: joinLines ((body ++ [name] ++ ["\x7d"]).map String.toList)) := by
  simp [AssignedAt.text, AssignedAt.lead, heredocPlace, heredocLead, List.replicate]

theorem isInert_of_mem_heredocLead (hproperty : isPlainName property.toList = true) :
    ∀ c ∈ heredocLead property, isInert c = true := by
  have hspace : isInert ' ' = true := by decide
  have hequals : isInert '=' = true := by decide
  simpa [heredocLead, or_imp, forall_and, hspace, hequals] using isInert_of_isPlainName hproperty

/-- A property whose value is a here document is found if the scan takes no name for it, or if no closing bracket
stands in the body before the first line with the name that it takes. With a name of word characters this is: if no
closing bracket stands in the body. Nothing else in the body counts. -/
theorem exists_findProperty_heredoc_iff (hproperty : isIdentifier property = true) (hname : isIdentifier name = true)
    (hbody : ∀ l ∈ body, '\n' ∉ l.toList ∧ l ≠ name)
    (honly : ∀ m : AssignedAt property.toList (heredocBlock header property name body).toList,
      m.before = header.toList ++ ['\n']) :
    ((∃ value, findProperty (heredocBlock header property name body) property = .ok value) ↔
        signName name = "" ∨ ∃ inside after, body ++ [name] = inside ++ signName name :: after ∧
          ∀ l ∈ inside, l.toList.any isClosing = false) ∧
      (name.toList.all isWord = true →
        ((∃ value, findProperty (heredocBlock header property name body) property = .ok value) ↔
          ∀ l ∈ body, l.toList.any isClosing = false)) := by
  have hplain := isPlainName_of_isIdentifier hproperty
  have hnotMem : name ∉ body := fun h => (hbody name h).2 rfl
  have hfound : (∃ value, findProperty (heredocBlock header property name body) property = .ok value) ↔
      signName name = "" ∨ ∃ inside after, body ++ [name] = inside ++ signName name :: after ∧
        ∀ l ∈ inside, l.toList.any isClosing = false := by
    have hlines : ∀ l ∈ body ++ [name], '\n' ∉ l.toList := by
      intro l hl
      obtain hl | hl := List.mem_append.mp hl
      · exact (hbody l hl).1
      · rw [List.mem_singleton.mp hl]
        exact notMem_of_isPlainName (isPlainName_of_isIdentifier hname) (by decide)
    have hchosen : (heredocPlace header property name body).IsChosen :=
      AssignedAt.isChosen_of_forall_before hplain honly
    rw [AssignedAt.exists_findProperty_iff hplain hchosen, text_heredocPlace]
    refine exists_scanValue_heredoc_iff property hname (isInert_of_mem_heredocLead hplain) ?_ hlines ?_
    · simp [heredocLead, notMem_of_isPlainName hplain (c := '<') (by decide)]
    · intro _ more hcons
      cases body with
      | nil => exact (List.cons.inj hcons).2.symm
      | cons l body => exact absurd ((List.cons.inj hcons).1 ▸ List.mem_cons_self) hnotMem
  refine ⟨hfound, fun hword => hfound.trans ?_⟩
  have hself : signName name = name := by
    rw [signName, List.takeWhile_eq_self_iff.mpr (List.all_eq_true.mp hword), String.ofList_toList]
  have hne : name ≠ "" := by
    rintro rfl
    cases hname
  rw [hself, or_iff_right hne]
  constructor
  · rintro ⟨inside, after, hcut, hinside⟩
    rw [List.append_cons_inj_of_notMem hnotMem List.not_mem_nil] at hcut
    rwa [hcut.1]
  · exact fun hnone => ⟨body, [], rfl, hnone⟩

/-- A body with quotes, backslashes and an opening bracket in it. -/
theorem exists_findProperty_heredoc_quotes :
    ∃ value, findProperty (heredocBlock "output \"a\" \x7b" "value" "EOT" ["\"a\\", "(", "  value", "EOT "]) "value" =
      .ok value := by
  have hoffset : ∀ a ∈ assignmentsFrom "value".toList true 0
      (heredocBlock "output \"a\" \x7b" "value" "EOT" ["\"a\\", "(", "  value", "EOT "]).toList, a.offset = 13 := by
    decide +kernel
  have honly := fun m => AssignedAt.before_eq_take (m := m) (by decide) hoffset
  exact ((exists_findProperty_heredoc_iff (by decide) (by decide) (by decide) honly).2 (by decide)).mpr (by decide)

/-- A closing bracket in the body, and the property is not found. -/
theorem findProperty_heredoc_bracket :
    findProperty (heredocBlock "output \"a\" \x7b" "value" "EOT" [")"]) "value" = .error .strayBracket ∧
      findProperty (heredocBlock "output \"a\" \x7b" "value" "EOT" ["hi"]) "value" = .ok "<<<-EOThi\nE" := by
  decide +kernel

end Blocks

end ModuleDocs.Hcl
