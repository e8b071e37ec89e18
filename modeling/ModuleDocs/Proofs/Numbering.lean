import ModuleDocs.Proofs.Place
import ModuleDocs.Proofs.Text.Split

/-! # Two ways to count lines

The number of an opening line counts the line feeds before it, but its block is cut out of the lines of the text,
which also end at ten other characters. Each of these that stands before an opening line makes its number too small by
one (`drop_linesOf_eq_iff`). So blocks start with their own opening lines exactly in texts that have no such character
before an opening line (`find_isCutAt_iff`). -/
set_option autoImplicit false

namespace ModuleDocs.Hcl

open ModuleDocs.Text

/-! ## Lines between line feeds -/

/-- The lines of a text that line feeds alone delimit. -/
def feedLines (text : String) : List String := (splitOn ['\n'] text.toList).map String.ofList

theorem unlines_feedLines (text : String) : unlines (feedLines text) = text := by
  have hjoin : joinLines (splitOn ['\n'] text.toList) = text.toList := (intercalate_splitOn text.toList).2
  rw [unlines, feedLines, List.map_map]
  simp [Function.comp_def, hjoin]

theorem return_notMem_feedLines {text : String} (hreturn : '\r' ∉ text.toList) :
    ∀ l ∈ feedLines text, '\r' ∉ l.toList := by
  intro l hl
  obtain ⟨piece, hpiece, rfl⟩ := List.mem_map.mp hl
  rw [String.toList_ofList]
  exact fun h => hreturn ((of_mem_splitOn hpiece).2 h)

theorem lines_feed (rest : List Char) : lines ('\n' :: rest) = [] :: lines rest :=
  lines_cons_of_isLineEnd (by decide) fun h => absurd h (by decide)

theorem length_lines_concat {cs : List Char} (hreturn : '\r' ∉ cs) :
    (lines (cs ++ ['\n'])).length = cs.countP isLineEnd + 1 := by
  induction cs with
  | nil =>
    rw [List.nil_append, lines_feed]
    rfl
  | cons c cs ih =>
    rw [List.mem_cons, not_or] at hreturn
    have ih := ih hreturn.2
    rw [List.cons_append]
    by_cases hc : isLineEnd c = true
    · rw [lines_cons_of_isLineEnd hc fun h => absurd h.symm hreturn.1, List.length_cons, ih, List.countP_cons_of_pos hc]
    · rw [lines_cons_of_not_isLineEnd (by simpa using hc), List.countP_cons_of_neg hc, ← ih]
      cases hlines : lines (cs ++ ['\n']) with
      | nil =>
        rw [hlines] at ih
        cases ih
      | cons line more => rfl

theorem lines_append_feed {cs : List Char} (hreturn : '\r' ∉ cs) (rest : List Char) :
    lines (cs ++ '\n' :: rest) = lines (cs ++ ['\n']) ++ lines rest := by
  induction cs with
  | nil =>
    rw [List.nil_append, List.nil_append, lines_feed, lines_feed]
    rfl
  | cons c cs ih =>
    rw [List.mem_cons, not_or] at hreturn
    rw [List.cons_append, List.cons_append]
    by_cases hc : isLineEnd c = true
    · rw [lines_cons_of_isLineEnd hc fun h => absurd h.symm hreturn.1,
        lines_cons_of_isLineEnd hc fun h => absurd h.symm hreturn.1, ih hreturn.2, List.cons_append]
    · have hc : isLineEnd c = false := by simpa using hc
      rw [lines_cons_of_not_isLineEnd hc, lines_cons_of_not_isLineEnd hc, ih hreturn.2]
      have hlength := length_lines_concat hreturn.2
      cases hlines : lines (cs ++ ['\n']) with
      | nil =>
        rw [hlines] at hlength
        cases hlength
      | cons line more => rfl

/-! ## Numbers that agree -/

/-- The other line ends in some lines. -/
def otherEnds (ls : List String) : Nat := (ls.flatMap String.toList).countP isLineEnd

theorem otherEnds_eq_zero_iff {ls : List String} : otherEnds ls = 0 ↔ ∀ l ∈ ls, IsLine l.toList := by
  simp only [otherEnds, List.countP_eq_zero, List.mem_flatMap, IsLine, Bool.not_eq_true]
  constructor
  · exact fun h l hl c hc => h c ⟨l, hl, hc⟩
  · rintro h c ⟨l, hl, hc⟩
    exact h l hl c hc

/-- Lines in front of others make as many lines as they are and have other line ends. -/
theorem exists_linesOf_unlines_append {before after : List String} (hreturn : ∀ l ∈ before, '\r' ∉ l.toList)
    (hafter : after ≠ []) :
    ∃ front : List String, front.length = before.length + otherEnds before ∧
      linesOf (unlines (before ++ after)) = front ++ linesOf (unlines after) := by
  induction before with
  | nil => exact ⟨[], rfl, rfl⟩
  | cons l before ih =>
    rw [List.forall_mem_cons] at hreturn
    obtain ⟨front, hlength, hlines⟩ := ih hreturn.2
    have hne : (before ++ after).map String.toList ≠ [] := by simp [hafter]
    have hcons : (unlines (l :: (before ++ after))).toList =
        l.toList ++ '\n' :: (unlines (before ++ after)).toList := by
      rw [unlines, unlines, String.toList_ofList, String.toList_ofList, List.map_cons, joinLines_cons _ hne]
    refine ⟨(lines (l.toList ++ ['\n'])).map String.ofList ++ front, ?_, ?_⟩
    · rw [List.length_append, List.length_map, length_lines_concat hreturn.1, hlength, List.length_cons, otherEnds,
        otherEnds, List.flatMap_cons, List.countP_append]
      omega
    · rw [List.cons_append, linesOf, hcons, lines_append_feed hreturn.1, List.map_append, List.append_assoc]
      exact congrArg _ hlines

/-- The number of a line counts the same lines in both ways if no line before it has another line end. -/
theorem drop_linesOf_eq_iff {text : String} (hreturn : '\r' ∉ text.toList) {before after : List String}
    {line : String} (hcut : feedLines text = before ++ line :: after) :
    (linesOf text).drop before.length = linesOf (unlines (line :: after)) ↔ ∀ l ∈ before, IsLine l.toList := by
  have hbefore : ∀ l ∈ before, '\r' ∉ l.toList := fun l hl =>
    return_notMem_feedLines hreturn l (hcut ▸ List.mem_append_left _ hl)
  obtain ⟨front, hlength, hlines⟩ := exists_linesOf_unlines_append hbefore (List.cons_ne_nil line after)
  rw [← hcut, unlines_feedLines] at hlines
  rw [← otherEnds_eq_zero_iff, hlines]
  constructor
  · intro hdrop
    have hlengths := congrArg List.length hdrop
    rw [List.length_drop, List.length_append, hlength] at hlengths
    omega
  · intro hzero
    rw [hzero, Nat.add_zero] at hlength
    rw [← hlength, List.drop_left]

/-! ## Blocks cut at their opening lines -/

theorem mem_numbered {test : List Char → Bool} {start n : Nat} {ls : List (List Char)} :
    n ∈ numbered test start ls ↔
      ∃ before line after, ls = before ++ line :: after ∧ test line = true ∧ n = start + before.length := by
  induction ls generalizing start with
  | nil => simp [numbered]
  | cons l ls ih =>
    have hcons : n ∈ numbered test start (l :: ls) ↔ test l = true ∧ n = start ∨ n ∈ numbered test (start + 1) ls := by
      rw [numbered_cons]
      by_cases hl : test l = true <;> simp [hl]
    rw [hcons, ih]
    constructor
    · rintro (⟨hl, rfl⟩ | ⟨before, line, after, rfl, hline, rfl⟩)
      · exact ⟨[], l, ls, rfl, hl, rfl⟩
      · exact ⟨l :: before, line, after, rfl, hline, by rw [List.length_cons]; omega⟩
    · rintro ⟨before, line, after, hcut, hline, rfl⟩
      cases before with
      | nil =>
        cases hcut
        exact .inl ⟨hline, rfl⟩
      | cons first before =>
        cases hcut
        exact .inr ⟨before, line, after, rfl, hline, by rw [List.length_cons]; omega⟩

theorem mem_numbered_toList {line : String} {n : Nat} {ls : List String} :
    n ∈ numbered (· = line.toList) 1 (ls.map String.toList) ↔
      ∃ before after, ls = before ++ line :: after ∧ n = before.length + 1 := by
  rw [mem_numbered]
  constructor
  · rintro ⟨before, l, after, hcut, hl, rfl⟩
    obtain ⟨before, rest, rfl, rfl, hrest⟩ := List.map_eq_append_iff.mp hcut
    obtain ⟨l, after, rfl, rfl, rfl⟩ := List.map_eq_cons_iff.mp hrest
    obtain rfl : l = line := String.toList_inj.mp (of_decide_eq_true hl)
    exact ⟨before, after, rfl, by rw [List.length_map, Nat.add_comm]⟩
  · rintro ⟨before, after, rfl, rfl⟩
    exact ⟨before.map String.toList, line.toList, after.map String.toList, by rw [List.map_append, List.map_cons],
      by simp, by rw [List.length_map, Nat.add_comm]⟩

theorem mem_numberedLines {line text : String} {n : Nat} :
    n ∈ numberedLines (· = line.toList) text ↔
      ∃ before after, feedLines text = before ++ line :: after ∧ n = before.length + 1 := by
  have hlines : splitOn ['\n'] text.toList = (feedLines text).map String.toList := by
    simp [feedLines, Function.comp_def]
  have hnumbers : numberedLines (· = line.toList) text =
      numbered (· = line.toList) 1 (splitOn ['\n'] text.toList) := rfl
  rw [hnumbers, hlines, mem_numbered_toList]

theorem findBlock_append {start : LineTest} {starts : String → Bool} (htest : start.test = .ok starts) {line : String}
    (hstarts : starts line = true) (hline : line ≠ "\x7d") {body : List String} (hbody : "\x7d" ∉ body)
    (before rest : List String) :
    findBlock (before ++ line :: (body ++ "\x7d" :: rest)) start .closingBrace (Int.ofNat (before.length + 1)) =
      .ok (unlines (line :: (body ++ ["\x7d"]))) := by
  have hnone : ∀ l ∈ line :: body, decide (l = "\x7d") = false := by
    intro l hl
    rw [decide_eq_false_iff_not]
    rintro rfl
    exact (List.mem_cons.mp hl).elim (fun e => hline e.symm) hbody
  have hblock : takeThrough (· = "\x7d") (line :: (body ++ "\x7d" :: rest)) = some (line :: (body ++ ["\x7d"])) :=
    takeThrough_append hnone (by simp) rest
  rw [findBlock_cut, htest, ok_bind, if_pos hstarts, LineTest.closingBrace, ok_bind, hblock]

/-- A numbered block that is cut out at its own opening line: the number, which counts line feeds, stands for the same
line among the lines of the text, and the block goes from there to the first closing brace alone on its line. -/
def IsCutAt (line text : String) (found : Nat × String) : Prop :=
  ∃ before after body rest, feedLines text = before ++ line :: after ∧ found.1 = before.length + 1 ∧
    (linesOf text).drop before.length = linesOf (unlines (line :: after)) ∧
    linesOf (unlines (line :: after)) = line :: (body ++ "\x7d" :: rest) ∧ "\x7d" ∉ body ∧
    found.2 = unlines (line :: (body ++ ["\x7d"]))

theorem linesOf_unlines_cons {line : String} (hline : IsLine line.toList) {after : List String} (hafter : after ≠ []) :
    linesOf (unlines (line :: after)) = line :: linesOf (unlines after) := by
  have hne : after.map String.toList ≠ [] := by simpa using hafter
  rw [unlines, List.map_cons, joinLines_cons _ hne, linesOf, String.toList_ofList, lines_append_newline hline,
    List.map_cons, String.ofList_toList, linesOf, unlines, String.toList_ofList]

theorem closingBrace_mem_linesOf {ls : List String} (hreturn : ∀ l ∈ ls, '\r' ∉ l.toList) (h : "\x7d" ∈ ls) :
    "\x7d" ∈ linesOf (unlines ls) := by
  obtain ⟨before, after, rfl⟩ := List.append_of_mem h
  obtain ⟨front, -, hlines⟩ := exists_linesOf_unlines_append
    (fun l hl => hreturn l (List.mem_append_left _ hl)) (List.cons_ne_nil "\x7d" after)
  rw [hlines, List.mem_append]
  by_cases hafter : after = []
  · subst hafter
    exact .inr (by decide)
  · rw [linesOf_unlines_cons (by decide) hafter]
    exact .inr List.mem_cons_self

section Opening
variable {line text : String} (hline : IsLine line.toList) (hreturn : '\r' ∉ text.toList)
include hline hreturn

/-- From an opening line with a closing brace after it on, the lines of the text have a block. -/
theorem exists_block {before after : List String} (hcut : feedLines text = before ++ line :: after)
    (hclosed : "\x7d" ∈ after) :
    ∃ body rest, linesOf (unlines (line :: after)) = line :: (body ++ "\x7d" :: rest) ∧ "\x7d" ∉ body := by
  have hafter : ∀ l ∈ after, '\r' ∉ l.toList := fun l hl =>
    return_notMem_feedLines hreturn l (hcut ▸ List.mem_append_right _ (List.mem_cons_of_mem _ hl))
  obtain ⟨body, rest, hlines, hbody⟩ := List.eq_append_cons_of_mem (closingBrace_mem_linesOf hafter hclosed)
  refine ⟨body, rest, ?_, hbody⟩
  rw [linesOf_unlines_cons hline (List.ne_nil_of_mem hclosed), hlines]

variable (hbrace : line ≠ "\x7d") (hclosed : ∀ before after, feedLines text = before ++ line :: after → "\x7d" ∈ after)
include hbrace hclosed

/-- At an opening line without other line ends before it, its own block is found. -/
theorem exists_findBlock {start : LineTest} {starts : String → Bool} (htest : start.test = .ok starts)
    (hstarts : starts line = true) {before after : List String} (hcut : feedLines text = before ++ line :: after)
    (hbefore : ∀ l ∈ before, IsLine l.toList) :
    ∃ block, findBlock (linesOf text) start .closingBrace (Int.ofNat (before.length + 1)) = .ok block ∧
      IsCutAt line text (before.length + 1, block) := by
  obtain ⟨body, rest, hlines, hbody⟩ := exists_block hline hreturn hcut (hclosed before after hcut)
  have hdrop := (drop_linesOf_eq_iff hreturn hcut).mpr hbefore
  have hlength : ((linesOf text).take before.length).length = before.length := by
    rw [List.length_take]
    have hlengths := congrArg List.length (hdrop.trans hlines)
    rw [List.length_drop, List.length_cons] at hlengths
    omega
  refine ⟨unlines (line :: (body ++ ["\x7d"])), ?_, before, after, body, rest, hcut, rfl, hdrop, hlines, hbody, rfl⟩
  rw [← List.take_append_drop before.length (linesOf text), hdrop, hlines]
  have hblock := findBlock_append htest hstarts hbrace hbody ((linesOf text).take before.length) rest
  rwa [hlength] at hblock

/-- All opening lines are found with their own blocks exactly if none has another line end than line feeds before it. -/
theorem find_isCutAt_iff (source : String) (hdeclared : line ∈ feedLines text) :
    (∃ found, (Opening.line source line).find text = .ok found ∧ ∀ e ∈ found, IsCutAt line text e) ↔
      ∀ before after, feedLines text = before ++ line :: after → ∀ l ∈ before, IsLine l.toList := by
  have hfind : ∀ found, (Opening.line source line).find text = .ok found ↔ _ := fun found =>
    Opening.find_eq_ok_iff rfl
  constructor
  · rintro ⟨found, hfound, hcuts⟩ before after hcut
    obtain ⟨-, hnumbers, -⟩ := (hfind found).mp hfound
    have hnumber : before.length + 1 ∈ found.map Prod.fst :=
      hnumbers ▸ mem_numberedLines.mpr ⟨before, after, hcut, rfl⟩
    obtain ⟨e, he, hloc⟩ := List.mem_map.mp hnumber
    obtain ⟨before', after', body, rest, hcut', hloc', hdrop, -⟩ := hcuts e he
    -- Both cuts are at the same number, so they are the same.
    obtain ⟨rfl, hsame⟩ := List.append_inj (hcut.symm.trans hcut') (by omega)
    obtain rfl : after = after' := (List.cons.inj hsame).2
    exact (drop_linesOf_eq_iff hreturn hcut).mp hdrop
  · intro hbefore
    have hall : ∀ n ∈ numberedLines (· = line.toList) text, ∃ block,
        findBlock (linesOf text) ⟨source, .ok (· = line)⟩ .closingBrace (Int.ofNat n) = .ok block ∧
          IsCutAt line text (n, block) := by
      intro n hn
      obtain ⟨before, after, hcut, rfl⟩ := mem_numberedLines.mp hn
      exact exists_findBlock hline hreturn hbrace hclosed rfl (by simp) hcut (hbefore before after hcut)
    choose! block hblock using hall
    refine ⟨(numberedLines (· = line.toList) text).map fun n => (n, block n), (hfind _).mpr ⟨?_, ?_, ?_⟩, ?_⟩
    · obtain ⟨before, after, hcut⟩ := List.append_of_mem hdeclared
      exact List.ne_nil_of_mem (mem_numberedLines.mpr ⟨before, after, hcut, rfl⟩)
    · rw [List.map_map]
      exact List.map_id _
    · exact List.forall_mem_map.mpr fun n hn => (hblock n hn).1
    · exact List.forall_mem_map.mpr fun n hn => (hblock n hn).2

end Opening

/-! ## Variables and outputs -/

theorem eq_of_isLineEnd {c : Char} (h : isLineEnd c = true) :
    c ∈ ['\n', '\x0b', '\x0c', '\r', '\x1c', '\x1d', '\x1e', '\u0085', '\u2028', '\u2029'] := by
  have hcode : c.toNat ∈ [10, 11, 12, 13, 28, 29, 30, 133, 8232, 8233] := by
    simp only [isLineEnd, Bool.or_eq_true, Bool.and_eq_true, decide_eq_true_iff, beq_iff_eq] at h
    simp only [List.mem_cons, List.not_mem_nil, or_false]
    omega
  rw [← Char.ofNat_toNat c]
  generalize c.toNat = n at hcode
  revert n
  decide

theorem continuesName_of_isLineEnd {c : Char} (h : isLineEnd c = true) : (continuesName c || c == '-') = false := by
  have hends : ['\n', '\x0b', '\x0c', '\r', '\x1c', '\x1d', '\x1e', '\u0085', '\u2028', '\u2029'].all
      (fun c => !(continuesName c || c == '-')) = true := by
    decide +kernel
  simpa using List.all_eq_true.mp hends c (eq_of_isLineEnd h)

theorem isLine_of_isIdentifier {name : String} (h : isIdentifier name = true) : IsLine name.toList := by
  intro c hc
  rw [Bool.eq_false_iff]
  intro hend
  have hcontinues := continues_of_isIdentifier h c hc
  rw [continuesName_of_isLineEnd hend] at hcontinues
  cases hcontinues

theorem isLine_openingLine {keyword name : String} (hkeyword : IsLine keyword.toList)
    (hname : isIdentifier name = true) : IsLine (openingLine keyword name).toList := by
  have hquote : IsLine " \"".toList := by decide
  have hbrace : IsLine "\" \x7b".toList := by decide
  intro c hc
  simp only [openingLine, String.toList_append, List.mem_append] at hc
  rcases hc with ((hc | hc) | hc) | hc
  · exact hkeyword c hc
  · exact hquote c hc
  · exact isLine_of_isIdentifier hname c hc
  · exact hbrace c hc

/-- How a declaration with a keyword and a name is looked for. -/
inductive Finds : String → String → (String → Except Error (List (Nat × String))) → Prop
  | ofVariable (v : Variable) : Finds "variable" v.name v.find
  | ofOutput (o : Output) : Finds "output" o.name o.find

theorem Finds.eq {keyword name : String} {find : String → Except Error (List (Nat × String))}
    (h : Finds keyword name find) : IsLine keyword.toList ∧ find = (namedOpening keyword name).find := by
  cases h with
  | ofVariable v => exact ⟨by decide, rfl⟩
  | ofOutput o => exact ⟨by decide, rfl⟩

/-- All declarations of a variable or output in a text are found, each with the block that starts with its own opening
line, exactly if before no such line there is another line end than line feeds. -/
theorem Finds.own_blocks_iff {keyword name : String} {find : String → Except Error (List (Nat × String))}
    (hfind : Finds keyword name find) (hname : isIdentifier name = true) {text : String} (hreturn : '\r' ∉ text.toList)
    (hdeclared : openingLine keyword name ∈ feedLines text)
    (hclosed : ∀ before after, feedLines text = before ++ openingLine keyword name :: after → "\x7d" ∈ after) :
    (∃ found, find text = .ok found ∧ ∀ e ∈ found, IsCutAt (openingLine keyword name) text e) ↔
      ∀ before after, feedLines text = before ++ openingLine keyword name :: after →
        ∀ l ∈ before, IsLine l.toList := by
  obtain ⟨hkeyword, rfl⟩ := hfind.eq
  have hbrace : openingLine keyword name ≠ "\x7d" := by
    intro h
    have hquote : '"' ∈ (openingLine keyword name).toList := by simp [openingLine]
    rw [h] at hquote
    exact absurd hquote (by decide)
  rw [namedOpening, if_pos (isPlainName_of_isIdentifier hname)]
  exact find_isCutAt_iff (isLine_openingLine hkeyword hname) hreturn hbrace hclosed _ hdeclared

theorem forall_cuts {α : Type} {ls : List α} {line : α} {P : List α → List α → Prop}
    (h : ∀ i < ls.length, ls[i]? = some line → P (ls.take i) (ls.drop (i + 1))) :
    ∀ before after, ls = before ++ line :: after → P before after := by
  rintro before after rfl
  have hP := h before.length (by simp) (by simp)
  rwa [List.take_left, ← List.drop_drop, List.drop_left] at hP

/-- The output `a`. -/
def outputA : Output := { name := "a", fields := { value := none, description := "" } }

/-- A form feed in a block: its lines go on after it, and end at the closing brace behind it. -/
def feedInBlock : String := "#\noutput \"a\" \x7b\n1\x0c\x7d\n\x7d\n"

theorem Finds.own_blocks_iff_feedInBlock :
    openingLine "output" "a" ∈ feedLines feedInBlock ∧
    (∀ before after, feedLines feedInBlock = before ++ openingLine "output" "a" :: after → "\x7d" ∈ after) ∧
    ∃ found, outputA.find feedInBlock = .ok found ∧ ∀ e ∈ found, IsCutAt (openingLine "output" "a") feedInBlock e := by
  have hreturn : '\r' ∉ feedInBlock.toList := by decide +kernel
  have hdeclared : openingLine "output" "a" ∈ feedLines feedInBlock := by decide +kernel
  have hclosed : ∀ before after, feedLines feedInBlock = before ++ openingLine "output" "a" :: after → "\x7d" ∈ after :=
    forall_cuts (P := fun _ after => "\x7d" ∈ after) (by decide +kernel)
  have hbefore : ∀ before after, feedLines feedInBlock = before ++ openingLine "output" "a" :: after →
      ∀ l ∈ before, IsLine l.toList :=
    forall_cuts (P := fun (before _ : List String) => ∀ l ∈ before, IsLine l.toList) (by decide +kernel)
  exact ⟨hdeclared, hclosed,
    ((Finds.ofOutput outputA).own_blocks_iff (by decide) hreturn hdeclared hclosed).mpr hbefore⟩

/-- A form feed in a comment before the declaration. -/
def feedInComment : String := "#\x0c1\noutput \"a\" \x7b\n\x7d\n"

/-- The declaration is on the second line that a line feed ends, but the second of all lines is another one. -/
theorem find_feedInComment :
    '\r' ∉ feedInComment.toList ∧ openingLine "output" "a" ∈ feedLines feedInComment ∧
    (∀ before after, feedLines feedInComment = before ++ openingLine "output" "a" :: after → "\x7d" ∈ after) ∧
    outputA.find feedInComment = .error (.startMismatch "^output \"a\" \x7b$" "1" 2) := by
  refine ⟨by decide +kernel, by decide +kernel, ?_, by decide +kernel⟩
  exact forall_cuts (P := fun _ after => "\x7d" ∈ after) (by decide +kernel)

end ModuleDocs.Hcl
