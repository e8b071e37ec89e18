import ModuleDocs.Proofs.Collapse
import ModuleDocs.Proofs.LongReference
import ModuleDocs.Proofs.Text.Lines
import ModuleDocs.Proofs.Text.Marks

/-! # What collapsing keeps of a cell

The segments of a text are what stands between its line breaks, without the blanks around it. Dropping the line breaks
at the ends of a text and setting its first line apart keep them (`segments_trimBreaks`, `segments_firstLine`). So a
column is collapsed without loss, and without a change elsewhere, exactly if the long part of each of its cells has a
plain text (`collapseColumn_conserves_iff`). -/
set_option autoImplicit false

namespace ModuleDocs

open Table Text Markdown

/-! ## Segments -/

/-- The texts between the occurrences of a mark, trimmed, without the empty ones. -/
def segments (mark cs : List Char) : List (List Char) := ((splitOn mark cs).map trim).filter (· ≠ [])

/-- A mark without blanks that does not overlap with itself. -/
structure IsBreakMark (mark : List Char) : Prop where
  marks : AreMarks [mark]
  solid : mark.all (!isBlank ·) = true

theorem isBreakMark_lineBreak : IsBreakMark lineBreak := ⟨⟨by decide, by decide⟩, by decide⟩

theorem isBreakMark_reverse_lineBreak : IsBreakMark lineBreak.reverse := ⟨⟨by decide, by decide⟩, by decide⟩

theorem trimStart_trimEnd (cs : List Char) : trimStart (trimEnd cs) = trimEnd (trimStart cs) := by
  induction cs with
  | nil => rfl
  | cons c cs ih =>
    by_cases hc : isBlank c = true
    · have hskip : trimStart (c :: cs) = trimStart cs := by rw [trimStart, List.dropWhile_cons_of_pos hc, trimStart]
      rw [hskip, ← ih]
      have hend := trimEnd_append [c] cs
      rw [List.singleton_append] at hend
      rw [hend]
      split
      · next hall =>
        have hnil : trimEnd cs = [] := by
          rw [trimEnd_eq, trimStart_eq_nil (by rwa [List.all_reverse]), List.reverse_nil]
        have hone : trimEnd [c] = [] := by
          rw [trimEnd_eq, trimStart_eq_nil (by simpa using hc), List.reverse_nil]
        rw [hone, hnil]
      · rw [List.singleton_append, trimStart, List.dropWhile_cons_of_pos hc, trimStart]
    · have hc : isBlank c = false := by simpa using hc
      have hstart : ∀ ds, trimStart (c :: ds) = c :: ds := fun ds => trimStart_append_cons hc [] ds
      have hend : trimEnd (c :: cs) = c :: trimEnd cs := trimEnd_append_cons hc [] cs
      rw [hend, hstart, hstart, hend]

theorem trim_reverse (cs : List Char) : trim cs.reverse = (trim cs).reverse := by
  rw [trim, trim, ← trimStart_trimEnd cs, trimEnd_eq, trimEnd_eq]

section Segments
variable {mark : List Char}

theorem segments_nil (mark : List Char) : segments mark [] = [] := by
  have hsplit : splitOn mark [] = [[]] := rfl
  rw [segments, hsplit]
  rfl

theorem segments_reverse (hmark : IsBreakMark mark) (hback : IsBreakMark mark.reverse) (cs : List Char) :
    segments mark.reverse cs.reverse = ((segments mark cs).map List.reverse).reverse := by
  have htrim : ∀ ps : List (List Char), (ps.map List.reverse).map trim = (ps.map trim).map List.reverse := by
    intro ps
    rw [List.map_map, List.map_map]
    exact List.map_congr_left fun p _ => trim_reverse p
  have hfilter : ∀ ps : List (List Char),
      (ps.map List.reverse).filter (· ≠ []) = (ps.filter (· ≠ [])).map List.reverse := by
    intro ps
    rw [List.filter_map]
    exact congrArg _ (List.filter_congr fun p _ => by simp)
  rw [segments, splitOn_reverse hmark.marks hback.marks, List.map_reverse, List.filter_reverse, htrim, hfilter,
    segments]

variable (hmark : IsBreakMark mark)
include hmark

theorem segments_append (a b : List Char) : segments mark (a ++ (mark ++ b)) = segments mark a ++ segments mark b := by
  rw [segments, splitOn_append_sep hmark.marks, List.map_append, List.filter_append, segments, segments]

theorem segments_mark_append (cs : List Char) : segments mark (mark ++ cs) = segments mark cs := by
  have h := segments_append hmark [] cs
  rwa [segments_nil, List.nil_append, List.nil_append] at h

theorem segments_cons_blank {c : Char} (hc : isBlank c = true) (cs : List Char) :
    segments mark (c :: cs) = segments mark cs := by
  have hstart : ¬ mark <+: c :: cs := by
    intro h
    obtain ⟨d, rest, hcons⟩ := List.exists_cons_of_ne_nil (hmark.marks.ne_nil (List.mem_singleton_self mark))
    have hsolid := hmark.solid
    rw [hcons] at h hsolid
    obtain ⟨rfl, -⟩ := List.cons_prefix_cons.mp h
    simp [hc] at hsolid
  have htrim : ∀ p, trim (c :: p) = trim p := by
    intro p
    rw [trim, trimStart, List.dropWhile_cons_of_pos hc, trim, trimStart]
  obtain ⟨p, ps, hps⟩ := List.exists_cons_of_ne_nil (splitOn_ne_nil mark cs)
  rw [segments, splitOn_cons hstart, segments, hps, consFirst, List.map_cons, List.map_cons, htrim]

theorem segments_trimStart (cs : List Char) : segments mark (trimStart cs) = segments mark cs := by
  induction cs with
  | nil => rfl
  | cons c cs ih =>
    by_cases hc : isBlank c = true
    · rw [segments_cons_blank hmark hc, ← ih, trimStart, List.dropWhile_cons_of_pos hc, trimStart]
    · rw [trimStart, List.dropWhile_cons_of_neg hc]

theorem segments_dropBreaks (fuel : Nat) (cs : List Char) :
    segments mark (dropBreaks mark fuel cs) = segments mark cs := by
  induction fuel generalizing cs with
  | zero => rfl
  | succ fuel ih =>
    rw [dropBreaks]
    split
    · next rest hrest =>
      rw [ih, segments_trimStart hmark, ← segments_trimStart hmark cs, dropPrefix?_eq_some.mp hrest,
        segments_mark_append hmark]
    · rfl

end Segments

section Reversed
variable {mark : List Char} (hmark : IsBreakMark mark) (hback : IsBreakMark mark.reverse)
include hmark hback

theorem segments_eq_of_reverse {cs ds : List Char} (h : segments mark.reverse ds = segments mark.reverse cs.reverse) :
    segments mark ds.reverse = segments mark cs := by
  have hds := segments_reverse hmark hback ds.reverse
  have hcs := segments_reverse hmark hback cs
  rw [List.reverse_reverse, h, hcs] at hds
  exact (List.map_injective_iff.mpr List.reverse_injective (List.reverse_injective hds)).symm

theorem segments_trimEnd (cs : List Char) : segments mark (trimEnd cs) = segments mark cs :=
  segments_eq_of_reverse hmark hback (segments_trimStart hback cs.reverse)

theorem segments_trim (cs : List Char) : segments mark (trim cs) = segments mark cs := by
  rw [trim, segments_trimEnd hmark hback, segments_trimStart hmark]

end Reversed

/-! ## Cells -/

theorem segments_trimBreaks (cs : List Char) : segments lineBreak (trimBreaks cs) = segments lineBreak cs := by
  have hback := isBreakMark_reverse_lineBreak
  exact (segments_eq_of_reverse isBreakMark_lineBreak hback (segments_dropBreaks hback _ _)).trans
    (segments_dropBreaks isBreakMark_lineBreak _ _)

theorem segments_intercalate (ps : List (List Char)) :
    segments lineBreak (lineBreak.intercalate ps) = ps.flatMap (segments lineBreak) := by
  induction ps with
  | nil => exact segments_nil lineBreak
  | cons p ps ih =>
    by_cases hps : ps = []
    · subst hps
      rw [List.intercalate_singleton, List.flatMap_cons, List.flatMap_nil, List.append_nil]
    · rw [List.intercalate_cons_of_ne_nil hps, List.append_assoc, segments_append isBreakMark_lineBreak, ih,
        List.flatMap_cons]

theorem segments_firstLine (cs : List Char) :
    segments lineBreak ((firstLine cs).1 ++ (lineBreak ++ (firstLine cs).2)) = segments lineBreak cs := by
  have hmark := isBreakMark_lineBreak
  have hback := isBreakMark_reverse_lineBreak
  obtain ⟨first, more, hsplit⟩ := List.exists_cons_of_ne_nil (splitOn_ne_nil lineBreak cs)
  have hcs : segments lineBreak cs = segments lineBreak first ++ more.flatMap (segments lineBreak) := by
    rw [← joined_splitOn hmark.marks cs, hsplit, segments_intercalate, List.flatMap_cons]
  rw [hcs, segments_append hmark, firstLine, hsplit]
  dsimp only
  rw [segments_trim hmark hback, segments_trimBreaks, segments_trim hmark hback, segments_intercalate]

/-- A text in an element that can be folded, if it is long. -/
def foldedIf (long : Bool) (cs : List Char) : List Char :=
  if long then "<details>".toList ++ cs ++ "</details>".toList else cs

/-- What a cell is collapsed to. A text with all segments of the cell is folded if its plain text is longer than the
threshold; with the first line kept, this is so for what follows a line that stays. -/
inductive IsCollapsed (threshold : Int) (old : String) : (keepFirst : Bool) → (new : String) → Prop
  | whole {long : List Char} {shown : String} (hshown : shownText long = .ok shown)
      (hsame : segments lineBreak long = segments lineBreak old.toList) :
      IsCollapsed threshold old false (String.ofList (foldedIf (threshold < shown.length) long))
  | below {first long : List Char} {shown : String} (hshown : shownText long = .ok shown)
      (hsame : segments lineBreak (first ++ (lineBreak ++ long)) = segments lineBreak old.toList) :
      IsCollapsed threshold old true
        (String.ofList (first ++ (lineBreak ++ foldedIf (threshold < shown.length) long)))

/-- The part of a cell that is folded if it is long. -/
def longPart (keepFirst : Bool) (cell : String) : List Char :=
  if keepFirst then (firstLine (trimBreaks cell.toList)).2 else trimBreaks cell.toList

theorem folded_eq_ok {threshold : Int} {cs cs' : List Char} :
    folded threshold cs = .ok cs' ↔
      ∃ shown, shownText cs = .ok shown ∧ cs' = foldedIf (threshold < shown.length) cs := by
  rw [folded, bind_eq_ok]
  refine exists_congr fun shown => and_congr_right fun _ => ?_
  rw [pure_eq_ok, foldedIf, eq_comm]
  simp only [gt_iff_lt, decide_eq_true_eq]

theorem collapseCell_eq_ok {threshold : Int} {keepFirst : Bool} {cell text : String} :
    collapseCell threshold keepFirst cell = .ok text ↔
      ∃ long, folded threshold (longPart keepFirst cell) = .ok long ∧
        String.ofList
          (if keepFirst then (firstLine (trimBreaks cell.toList)).1 ++ (lineBreak ++ long) else long) = text := by
  unfold collapseCell longPart
  cases keepFirst with
  | false => simp only [Bool.false_eq_true, if_false, bind_eq_ok, pure_eq_ok]
  | true => simp only [if_true, bind_eq_ok, pure_eq_ok, List.append_assoc]

theorem exists_collapseCell_iff {threshold : Int} {keepFirst : Bool} {cell : String} :
    (∃ text, collapseCell threshold keepFirst cell = .ok text) ↔
      ∃ shown, shownText (longPart keepFirst cell) = .ok shown := by
  simp only [collapseCell_eq_ok, folded_eq_ok]
  constructor
  · rintro ⟨-, -, ⟨shown, hshown, -⟩, -⟩
    exact ⟨shown, hshown⟩
  · rintro ⟨shown, hshown⟩
    exact ⟨_, _, ⟨shown, hshown, rfl⟩, rfl⟩

theorem isCollapsed_of_collapseCell {threshold : Int} {keepFirst : Bool} {cell text : String}
    (h : collapseCell threshold keepFirst cell = .ok text) : IsCollapsed threshold cell keepFirst text := by
  obtain ⟨long, hfolded, rfl⟩ := collapseCell_eq_ok.mp h
  obtain ⟨shown, hshown, rfl⟩ := folded_eq_ok.mp hfolded
  cases keepFirst with
  | false => exact .whole hshown (segments_trimBreaks _)
  | true => exact .below hshown ((segments_firstLine _).trans (segments_trimBreaks _))

/-! ## Columns -/

/-- The place of a column in the rows. -/
def Grid.column? (grid : Grid) (title : String) : Option Nat := grid.header.findIdx? (· == title)

/-- A table with one column collapsed: its header and the number of its rows are the same, and so are all cells of other
columns. -/
structure Grid.CollapsesTo (grid : Grid) (threshold : Int) (title : String) (keepFirst : Bool) (after : Grid) :
    Prop where
  header : after.header = grid.header
  rows : List.Forall₂ (fun row row' => row'.length = row.length ∧
    (∀ i, grid.column? title = some i → ∃ old new, row[i]? = some old ∧ row'[i]? = some new ∧
      IsCollapsed threshold old keepFirst new) ∧
    ∀ j, grid.column? title ≠ some j → row'[j]? = row[j]?) grid.rows after.rows

theorem forall₂_collapseAt {threshold : Int} {keepFirst : Bool} {i : Nat} {rows rows' : List (List String)}
    (h : rows.mapM (collapseAt threshold keepFirst i) = .ok rows') :
    List.Forall₂ (fun row row' => row'.length = row.length ∧
      (∃ old new, row[i]? = some old ∧ row'[i]? = some new ∧ IsCollapsed threshold old keepFirst new) ∧
      ∀ j, i ≠ j → row'[j]? = row[j]?) rows rows' := by
  refine (mapM_eq_ok.mp h).imp fun row row' hrow => ?_
  obtain ⟨cell, text, hcell, htext, rfl⟩ := collapseAt_eq_ok.mp hrow
  have hi : i < row.length := (List.getElem?_eq_some_iff.mp hcell).1
  exact ⟨List.length_set, ⟨cell, text, hcell, List.getElem?_set_self hi, isCollapsed_of_collapseCell htext⟩,
    fun j hj => List.getElem?_set_ne hj⟩

/-- In a table whose rows reach a column, this column is collapsed without loss, and nothing else is touched, exactly if
the long part of each of its cells has a plain text. -/
theorem collapseColumn_conserves_iff (threshold : Int) (keepFirst : Bool) {grid : Grid} {title : String}
    (hreach : ∀ i, grid.column? title = some i → ∀ row ∈ grid.rows, i < row.length) :
    (∃ after, collapseColumn threshold title keepFirst grid = .ok after ∧
        grid.CollapsesTo threshold title keepFirst after) ↔
      ∀ i, grid.column? title = some i → ∀ row ∈ grid.rows, ∀ cell, row[i]? = some cell →
        ∃ shown, shownText (longPart keepFirst cell) = .ok shown := by
  rw [collapseColumn_eq]
  cases hcolumn : grid.column? title with
  | none =>
    have hsame : grid.CollapsesTo threshold title keepFirst grid := by
      refine ⟨rfl, List.forall₂_same.mpr fun row _ => ⟨rfl, fun i hi => ?_, fun _ _ => rfl⟩⟩
      rw [hcolumn] at hi
      cases hi
    rw [Grid.column?] at hcolumn
    rw [hcolumn]
    constructor
    · intro _ i hi
      cases hi
    · intro _
      exact ⟨grid, rfl, hsame⟩
  | some i =>
    have hi := hcolumn
    rw [Grid.column?] at hi
    rw [hi]
    constructor
    · rintro ⟨after, hafter, -⟩ j hj row hrow cell hcell
      cases hj
      obtain ⟨rows, hrows, -⟩ := map_eq_ok.mp hafter
      obtain ⟨row', -, hrow'⟩ := exists_mem_of_mapM hrows hrow
      obtain ⟨cell', text, hcell', htext, -⟩ := collapseAt_eq_ok.mp hrow'
      obtain rfl := Option.some.inj (hcell.symm.trans hcell')
      exact exists_collapseCell_iff.mp ⟨text, htext⟩
    · intro hshown
      have hrows : ∀ row ∈ grid.rows, ∃ row', collapseAt threshold keepFirst i row = .ok row' := by
        intro row hrow
        have hcell := List.getElem?_eq_getElem (hreach i hcolumn row hrow)
        obtain ⟨text, htext⟩ := exists_collapseCell_iff.mpr (hshown i rfl row hrow _ hcell)
        exact ⟨_, collapseAt_eq_ok.mpr ⟨_, text, hcell, htext, rfl⟩⟩
      obtain ⟨rows, hrows⟩ := exists_mapM_eq_ok.mpr hrows
      refine ⟨{ grid with rows }, map_eq_ok.mpr ⟨rows, hrows, rfl⟩, rfl, ?_⟩
      refine (forall₂_collapseAt hrows).imp fun row row' hrow => ⟨hrow.1, ?_, ?_⟩
      · intro j hj
        rw [hcolumn] at hj
        cases hj
        exact hrow.2.1
      · intro j hj
        rw [hcolumn] at hj
        exact hrow.2.2 j fun e => hj (congrArg some e)

def describedGrid (description : String) : Grid where
  header := ["Name", "Description"]
  rows := [["a", description]]

theorem describedGrid_reach (description : String) :
    ∀ i, (describedGrid description).column? "Description" = some i →
      ∀ row ∈ (describedGrid description).rows, i < row.length := by
  intro i hi row hrow
  obtain rfl : 1 = i := Option.some.inj hi
  rw [List.mem_singleton.mp hrow]
  exact Nat.lt_succ_self 1

/-- A cell with line breaks at its two ends and blanks around them. -/
def brokenCell : String := " <br/>one <br/> two<br/>three<br/>"

/-- The first line stays, and what follows it is folded. -/
theorem collapseColumn_conserves_brokenCell :
    (∀ i, (describedGrid brokenCell).column? "Description" = some i →
        ∀ row ∈ (describedGrid brokenCell).rows, i < row.length) ∧
      collapseColumn 3 "Description" true (describedGrid brokenCell) =
        .ok (describedGrid "one<br/><details>two<br/>three</details>") ∧
      ∃ after, collapseColumn 3 "Description" true (describedGrid brokenCell) = .ok after ∧
        (describedGrid brokenCell).CollapsesTo 3 "Description" true after := by
  refine ⟨describedGrid_reach _, by decide +kernel, ?_⟩
  refine (collapseColumn_conserves_iff 3 true (describedGrid_reach _)).mpr ?_
  intro i hi row hrow cell hcell
  obtain rfl : 1 = i := Option.some.inj hi
  rw [List.mem_singleton.mp hrow] at hcell
  obtain rfl := Option.some.inj hcell
  exact exists_of_isOk (by decide +kernel)

/-! ## Cells without a plain text -/

theorem dropBreaks_of_none {mark cs : List Char} (h : dropPrefix? mark (trimStart cs) = none) (fuel : Nat) :
    dropBreaks mark fuel cs = cs := by
  cases fuel with
  | zero => rfl
  | succ fuel => rw [dropBreaks, h]

theorem dropPre_of_notMem {cs : List Char} (h : '<' ∉ cs) : dropPre cs = cs := by
  induction cs with
  | nil => rfl
  | cons c cs ih =>
    have hc : c ≠ '<' := fun e => h (e ▸ List.mem_cons_self)
    have hcs : '<' ∉ cs := fun hm => h (List.mem_cons_of_mem c hm)
    rw [dropPre, ih hcs]
    · intro rest e
      exact absurd e hc
    · intro rest e
      exact absurd e hc

theorem collapseCell_numberedComment {digits : List Char} (hdigits : ∀ c ∈ digits, isAsciiDigit c = true)
    (hlong : maxDecimalDigits < digits.length) (threshold : Int) :
    collapseCell threshold false (String.ofList (numberedComment digits)) = .error .longReference := by
  have htrim : trimBreaks (numberedComment digits) = numberedComment digits := by
    have hstart : dropPrefix? lineBreak (trimStart (numberedComment digits)) = none := rfl
    have hend : dropPrefix? lineBreak.reverse (trimStart (numberedComment digits).reverse) = none := by
      rw [numberedComment_eq, numbered, List.reverse_append, List.reverse_cons, List.reverse_cons, List.reverse_append]
      rfl
    rw [trimBreaks, dropBreaks_of_none hstart, dropBreaks_of_none hend, List.reverse_reverse]
  have hpre : dropPre (numberedComment digits) = numberedComment digits := by
    change '<' :: '!' :: '-' :: '-' :: '-' :: '-' :: '>' :: dropPre (numbered digits) = _
    rw [dropPre_of_notMem (notMem_numbered hdigits (by decide) (by decide))]
    rfl
  rw [collapseCell, String.toList_ofList, htrim]
  simp only [Bool.false_eq_true, if_false, folded, shownText, hpre, plainText_numberedComment hdigits hlong]
  rfl

/-- A reference with one digit more than is read. -/
def overlongCell : String := String.ofList (numberedComment (List.replicate 4301 '1'))

/-- Such a cell is neither folded nor left as it is: the whole table fails. -/
theorem collapseColumn_fails_overlongCell :
    (∀ i, (describedGrid overlongCell).column? "Description" = some i →
        ∀ row ∈ (describedGrid overlongCell).rows, i < row.length) ∧
      collapseColumn 10000 "Description" false (describedGrid overlongCell) = .error .longReference := by
  have hdigits : ∀ c ∈ List.replicate 4301 '1', isAsciiDigit c = true := by
    intro c hc
    rw [List.eq_of_mem_replicate hc]
    decide
  have hlong : maxDecimalDigits < (List.replicate 4301 '1').length := by
    rw [List.length_replicate]
    decide
  have hrow : collapseAt 10000 false 1 ["a", overlongCell] = .error .longReference := by
    unfold collapseAt overlongCell
    simp only [List.getElem?_cons_succ, List.getElem?_cons_zero, collapseCell_numberedComment hdigits hlong]
    rfl
  refine ⟨describedGrid_reach _, ?_⟩
  rw [collapseColumn_eq]
  change ([["a", overlongCell]].mapM (collapseAt 10000 false 1)).map _ = _
  rw [List.mapM_cons, hrow]
  rfl

end ModuleDocs
