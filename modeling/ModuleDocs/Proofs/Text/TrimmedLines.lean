import Mathlib.Data.List.DropRight
import ModuleDocs.Proofs.Text.Lines

/-! # The lines of a trimmed text

The blank characters at the two ends of a text may hold line ends. Without them the text has lost the blank lines at its
two ends, and its other lines say what they said before (`map_trim_lines_trim`). -/
set_option autoImplicit false

namespace ModuleDocs.Text

/-! ## Blank lines -/

/-- A character in front of a text is the first half of a line end, ends an empty line, or is added to the first line.
-/
theorem lines_cons_eq (c : Char) (cs : List Char) :
    lines (c :: cs) = if c = '\r' ∧ cs.head? = some '\n' then lines cs
      else if isLineEnd c then [] :: lines cs else consFirst c (lines cs) := by
  split
  · next hpair =>
    obtain ⟨rfl, hhead⟩ := hpair
    obtain ⟨rest, rfl⟩ := List.head?_eq_some_iff.mp hhead
    rw [lines_return_feed, lines_cons_of_isLineEnd (by decide) fun h => absurd h (by decide)]
  · next hpair =>
    exact lines_cons fun hc rest hrest => hpair ⟨hc, by rw [hrest, List.head?_cons]⟩

theorem lines_eq_nil_iff {cs : List Char} : lines cs = [] ↔ cs = [] := by
  induction cs with
  | nil => exact iff_of_true rfl rfl
  | cons c cs ih =>
    refine iff_of_false ?_ (List.cons_ne_nil c cs)
    rw [lines_cons_eq]
    split
    · next hpair =>
      rw [ih]
      rintro rfl
      cases hpair.2
    split
    · exact List.cons_ne_nil _ _
    · cases lines cs <;> exact List.cons_ne_nil _ _

theorem isBlank_of_isLineEnd {c : Char} (h : isLineEnd c = true) : isBlank c = true := by
  unfold isLineEnd at h
  unfold isBlank
  simp only [Bool.or_eq_true, Bool.and_eq_true, decide_eq_true_eq, beq_iff_eq] at h ⊢
  omega

theorem isLineEnd_eq_false {c : Char} (h : isBlank c = false) : isLineEnd c = false := by
  rw [← Bool.not_eq_true]
  intro hend
  cases h.symm.trans (isBlank_of_isLineEnd hend)

theorem all_isBlank_of_mem_lines {cs l : List Char} (h : cs.all isBlank = true) (hl : l ∈ lines cs) :
    l.all isBlank = true := by
  induction cs generalizing l with
  | nil => cases hl
  | cons c cs ih =>
    rw [List.all_cons, Bool.and_eq_true] at h
    rw [lines_cons_eq] at hl
    split at hl
    · exact ih h.2 hl
    split at hl
    · obtain rfl | hl := List.mem_cons.mp hl
      · rfl
      · exact ih h.2 hl
    · cases hlines : lines cs with
      | nil =>
        rw [hlines, consFirst, List.mem_singleton] at hl
        rw [hl, List.all_cons, h.1]
        rfl
      | cons line more =>
        rw [hlines] at ih
        rw [hlines, consFirst, List.mem_cons] at hl
        obtain rfl | hl := hl
        · rw [List.all_cons, h.1, ih h.2 List.mem_cons_self]
          rfl
        · exact ih h.2 (List.mem_cons_of_mem line hl)

theorem trim_eq_nil_iff {l : List Char} : trim l = [] ↔ l.all isBlank = true := by
  constructor
  · intro h
    rw [List.all_eq_true]
    intro c hc
    rw [← Bool.not_eq_false]
    intro hblank
    have hmem := (mem_trim hblank).mpr hc
    rw [h] at hmem
    cases hmem
  · intro h
    rw [trim, trimStart_eq_nil h]
    rfl

theorem trim_cons_of_isBlank {c : Char} (hc : isBlank c = true) (l : List Char) : trim (c :: l) = trim l := by
  rw [trim, trim, trimStart, List.dropWhile_cons_of_pos hc, ← trimStart]

theorem trim_append_of_isBlank {l e : List Char} (he : e.all isBlank = true) : trim (l ++ e) = trim l := by
  rw [trim, trimStart_append]
  split
  · next hl => rw [trimStart_eq_nil he, trim_eq_nil_iff.mpr hl]; rfl
  · rw [trimEnd_append, if_pos he, trim]

/-! ## Trimming -/

/-- Without the blanks at its start, a text has lost the blank lines there. -/
theorem map_trim_lines_trimStart (cs : List Char) :
    (lines (trimStart cs)).map trim = ((lines cs).map trim).dropWhile List.isEmpty := by
  induction cs with
  | nil => rfl
  | cons c cs ih =>
    by_cases hc : isBlank c = true
    · have hstart : trimStart (c :: cs) = trimStart cs := List.dropWhile_cons_of_pos hc
      rw [hstart, ih, lines_cons_eq]
      split
      · rfl
      split
      · rfl
      · cases hlines : lines cs with
        | nil =>
          have hone : trim [c] = [] := trim_eq_nil_iff.mpr (by simp [hc])
          rw [consFirst, List.map_singleton, hone]
          rfl
        | cons line more => rw [consFirst, List.map_cons, List.map_cons, trim_cons_of_isBlank hc]
    · rw [Bool.not_eq_true] at hc
      have hstart : trimStart (c :: cs) = c :: cs := List.dropWhile_cons_of_neg (by simp [hc])
      have hshown : ∀ line, (trim (c :: line)).isEmpty = false := fun line => by
        rw [List.isEmpty_eq_false_iff]
        exact List.ne_nil_of_mem ((mem_trim hc).mpr List.mem_cons_self)
      rw [hstart, lines_cons_of_not_isLineEnd (isLineEnd_eq_false hc)]
      cases lines cs with
      | nil => rw [consFirst, List.map_singleton, List.dropWhile_cons_of_neg (by simp [hshown])]
      | cons line more => rw [consFirst, List.map_cons, List.dropWhile_cons_of_neg (by simp [hshown])]

/-- Blank characters behind a text go on its last line, and blank lines follow. -/
theorem lines_append_blanks (front : List Char) {c : Char} (hc : isBlank c = false) {blanks : List Char}
    (hblanks : blanks.all isBlank = true) :
    ∃ before last more rest, lines (front ++ [c]) = before ++ [last] ∧
      lines (front ++ [c] ++ blanks) = before ++ (last ++ rest) :: more ∧ c ∈ last ∧ rest.all isBlank = true ∧
      ∀ l ∈ more, l.all isBlank = true := by
  induction front with
  | nil =>
    have hend := isLineEnd_eq_false hc
    have hall := fun l => @all_isBlank_of_mem_lines blanks l hblanks
    refine ⟨[], [c], (lines blanks).tail, (lines blanks).headD [], ?_, ?_, List.mem_singleton_self c, ?_, ?_⟩
    · rw [List.nil_append, lines_cons_of_not_isLineEnd hend]
      rfl
    · rw [List.nil_append, List.singleton_append, lines_cons_of_not_isLineEnd hend]
      cases lines blanks <;> rfl
    · cases hlines : lines blanks with
      | nil => rfl
      | cons line more => exact hall line (by rw [hlines]; exact List.mem_cons_self)
    · exact fun l hl => hall l (List.mem_of_mem_tail hl)
  | cons x front ih =>
    obtain ⟨before, last, more, rest, hlines, hlines', hmem, hrest, hmore⟩ := ih
    have hhead : (front ++ [c] ++ blanks).head? = (front ++ [c]).head? :=
      List.head?_append_of_ne_nil _ (by simp)
    rw [List.cons_append, List.cons_append, lines_cons_eq, lines_cons_eq, hhead, hlines, hlines']
    split
    · exact ⟨before, last, more, rest, rfl, rfl, hmem, hrest, hmore⟩
    split
    · exact ⟨[] :: before, last, more, rest, rfl, rfl, hmem, hrest, hmore⟩
    · cases before with
      | nil => exact ⟨[], x :: last, more, rest, rfl, rfl, List.mem_cons_of_mem x hmem, hrest, hmore⟩
      | cons line before => exact ⟨(x :: line) :: before, last, more, rest, rfl, rfl, hmem, hrest, hmore⟩

theorem rdropWhile_append_of_pos {α : Type} {p : α → Bool} (l : List α) {m : List α} (hm : ∀ x ∈ m, p x = true) :
    (l ++ m).rdropWhile p = l.rdropWhile p := by
  rw [List.rdropWhile, List.reverse_append, List.dropWhile_append_of_pos fun x hx => hm x (List.mem_reverse.mp hx),
    List.rdropWhile]

/-- Without the blanks at its end, a text has lost the blank lines there. -/
theorem map_trim_lines_trimEnd (cs : List Char) :
    (lines (trimEnd cs)).map trim = ((lines cs).map trim).rdropWhile List.isEmpty := by
  have hsplit : trimEnd cs ++ cs.rtakeWhile isBlank = cs := List.rdropWhile_append_rtakeWhile
  have hblanks : (cs.rtakeWhile isBlank).all isBlank = true :=
    List.all_eq_true.mpr fun c hc => List.mem_rtakeWhile_imp hc
  have hempty : ∀ {ls : List (List Char)}, (∀ l ∈ ls, l.all isBlank = true) → ∀ l ∈ ls.map trim, l.isEmpty = true := by
    intro ls hls l hl
    obtain ⟨line, hline, rfl⟩ := List.mem_map.mp hl
    rw [trim_eq_nil_iff.mpr (hls line hline)]
    rfl
  by_cases hnil : trimEnd cs = []
  · rw [hnil, List.nil_append] at hsplit
    rw [hsplit] at hblanks
    rw [hnil, List.rdropWhile_eq_nil_iff.mpr (hempty fun l hl => all_isBlank_of_mem_lines hblanks hl)]
    rfl
  · have hlast : ¬ isBlank ((trimEnd cs).getLast hnil) = true := List.rdropWhile_last_not isBlank cs hnil
    rw [Bool.not_eq_true] at hlast
    obtain ⟨before, last, more, rest, hlines, hlines', hmem, hrest, hmore⟩ :=
      lines_append_blanks (trimEnd cs).dropLast hlast hblanks
    rw [List.dropLast_concat_getLast, hsplit] at hlines'
    rw [List.dropLast_concat_getLast] at hlines
    have hshown : ¬ (trim last).isEmpty = true := by
      rw [List.isEmpty_iff]
      exact List.ne_nil_of_mem ((mem_trim hlast).mpr hmem)
    calc (lines (trimEnd cs)).map trim
        = before.map trim ++ [trim last] := by rw [hlines, List.map_append, List.map_singleton]
      _ = (before.map trim ++ [trim last]).rdropWhile List.isEmpty := (List.rdropWhile_concat_neg _ _ _ hshown).symm
      _ = (before.map trim ++ [trim last] ++ more.map trim).rdropWhile List.isEmpty :=
          (rdropWhile_append_of_pos _ (hempty hmore)).symm
      _ = ((lines cs).map trim).rdropWhile List.isEmpty := by
          rw [hlines', List.map_append, List.map_cons, trim_append_of_isBlank hrest, List.append_assoc,
            List.singleton_append]

/-- Without the blanks around it, a text has lost the blank lines at its two ends. -/
theorem map_trim_lines_trim (cs : List Char) :
    (lines (trim cs)).map trim = (((lines cs).map trim).dropWhile List.isEmpty).rdropWhile List.isEmpty := by
  rw [trim, map_trim_lines_trimEnd, map_trim_lines_trimStart]

end ModuleDocs.Text
