import Mathlib.Data.List.Forall2
import ModuleDocs.Proofs.Text.Lines
import ModuleDocs.Table.Render

/-! # Tidied tables

The text of a table is tidied after it has been laid out: blanks beside bars and the dashes of the rule are cut down.
This is done line by line (`tidy_joinLines`). Blanks in front of a bar leave no trace but one (`tidy_barRow_padded`),
and bars and line feeds stay as they are (`count_tidy`). -/
set_option autoImplicit false

namespace ModuleDocs.Table

open ModuleDocs.Text

/-- A text with the blanks beside its bars and the dashes between them cut down. -/
def tidy (cs : List Char) : List Char := shortenRules none (squeezeBars false 0 cs)

theorem markdown_eq (grid : Grid) :
    markdown grid = (barLines grid).map fun lines => String.ofList (tidy (joinLines lines)) := by
  unfold markdown tidy
  cases barLines grid <;> rfl

/-! ## Steps of the two scans -/

section Squeeze
variable {drop : Bool} {blanks : Nat}

theorem squeezeBars_nil : squeezeBars drop blanks [] = List.replicate blanks ' ' := rfl

theorem squeezeBars_blank (cs : List Char) :
    squeezeBars false blanks (' ' :: cs) = squeezeBars false (blanks + 1) cs := rfl

theorem squeezeBars_blank_drop (cs : List Char) : squeezeBars true blanks (' ' :: cs) = squeezeBars true blanks cs :=
  rfl

/-- Blanks in front of a bar become one, and so do those behind it. -/
theorem squeezeBars_bar (cs : List Char) :
    squeezeBars drop blanks ('|' :: cs) =
      (if blanks = 0 then [] else [' ']) ++ '|' ::
        if cs.head? = some ' ' then ' ' :: squeezeBars true 0 cs else squeezeBars false 0 cs := by
  cases cs with
  | nil => rfl
  | cons c cs =>
    by_cases hc : c = ' '
    · subst hc
      rfl
    · rw [List.head?_cons, if_neg fun e => hc (Option.some.inj e), squeezeBars]
      intro rest e
      exact hc (List.cons.inj e).1

theorem squeezeBars_bar_blank (cs : List Char) :
    squeezeBars drop 0 ('|' :: ' ' :: cs) = '|' :: ' ' :: squeezeBars true 0 cs := by
  rw [squeezeBars_bar, if_pos rfl, List.head?_cons, if_pos rfl, squeezeBars_blank_drop, List.nil_append]

theorem squeezeBars_succ_bar (cs : List Char) :
    squeezeBars drop (blanks + 1) ('|' :: cs) = ' ' :: squeezeBars false 0 ('|' :: cs) := by
  rw [squeezeBars_bar, squeezeBars_bar, if_neg (Nat.succ_ne_zero _), if_pos rfl]
  rfl

theorem squeezeBars_other {c : Char} (hblank : c ≠ ' ') (hbar : c ≠ '|') (cs : List Char) :
    squeezeBars drop blanks (c :: cs) = List.replicate blanks ' ' ++ c :: squeezeBars false 0 cs := by
  rw [squeezeBars]
  · exact hblank
  · rintro rest rfl
    exact absurd rfl hbar
  · exact hbar

/-- Whether blanks are to be dropped makes no difference before any other character. -/
theorem squeezeBars_drop {c : Char} (hc : c ≠ ' ') (cs : List Char) :
    squeezeBars true blanks (c :: cs) = squeezeBars false blanks (c :: cs) := by
  by_cases hbar : c = '|'
  · subst hbar
    rw [squeezeBars_bar, squeezeBars_bar]
  · rw [squeezeBars_other hc hbar, squeezeBars_other hc hbar]

theorem squeezeBars_blanks (k : Nat) (cs : List Char) :
    squeezeBars false blanks (List.replicate k ' ' ++ cs) = squeezeBars false (blanks + k) cs := by
  induction k generalizing blanks with
  | zero => rfl
  | succ k ih => rw [List.replicate_succ, List.cons_append, squeezeBars_blank, ih, Nat.add_right_comm, Nat.add_assoc]

theorem squeezeBars_blanks_drop (k : Nat) (cs : List Char) :
    squeezeBars true blanks (List.replicate k ' ' ++ cs) = squeezeBars true blanks cs := by
  induction k with
  | zero => rfl
  | succ k ih => rw [List.replicate_succ, List.cons_append, squeezeBars_blank_drop, ih]

end Squeeze

section Shorten
variable {dashes : Option Nat}

theorem shortenRules_nil : shortenRules dashes [] = List.replicate (dashes.getD 0) '-' := rfl

theorem shortenRules_dash_none (cs : List Char) : shortenRules none ('-' :: cs) = '-' :: shortenRules none cs := rfl

theorem shortenRules_dash_some (n : Nat) (cs : List Char) :
    shortenRules (some n) ('-' :: cs) = shortenRules (some (n + 1)) cs := rfl

theorem shortenRules_other {c : Char} (hdash : c ≠ '-') (hbar : c ≠ '|') (cs : List Char) :
    shortenRules dashes (c :: cs) = List.replicate (dashes.getD 0) '-' ++ c :: shortenRules none cs := by
  rw [shortenRules]
  · exact hdash
  · exact hbar

theorem shortenRules_bar (cs : List Char) :
    shortenRules dashes ('|' :: cs) =
      (if dashes.getD 0 = 0 then [] else ['-', '-', '-']) ++ '|' :: shortenRules (some 0) cs := by
  match dashes with
  | none | some 0 | some (n + 1) => rfl

theorem shortenRules_dashes (n k : Nat) (cs : List Char) :
    shortenRules (some n) (List.replicate k '-' ++ cs) = shortenRules (some (n + k)) cs := by
  induction k generalizing n with
  | zero => rfl
  | succ k ih =>
    rw [List.replicate_succ, List.cons_append, shortenRules_dash_some, ih, Nat.add_right_comm, Nat.add_assoc]

end Shorten

/-! ## Line by line -/

theorem squeezeBars_append_newline (drop : Bool) (blanks : Nat) (u v : List Char) :
    squeezeBars drop blanks (u ++ '\n' :: v) = squeezeBars drop blanks u ++ '\n' :: squeezeBars false 0 v := by
  induction u generalizing drop blanks with
  | nil => rw [List.nil_append, squeezeBars_other (by decide) (by decide), squeezeBars_nil]
  | cons c u ih =>
    rw [List.cons_append]
    by_cases hblank : c = ' '
    · subst hblank
      cases drop with
      | false => rw [squeezeBars_blank, squeezeBars_blank, ih]
      | true => rw [squeezeBars_blank_drop, squeezeBars_blank_drop, ih]
    by_cases hbar : c = '|'
    · subst hbar
      have hhead : (u ++ '\n' :: v).head? = some ' ' ↔ u.head? = some ' ' := by
        cases u <;> simp
      rw [squeezeBars_bar, squeezeBars_bar, ih, ih]
      by_cases hnext : u.head? = some ' '
      · rw [if_pos (hhead.mpr hnext), if_pos hnext]
        simp
      · rw [if_neg (mt hhead.mp hnext), if_neg hnext]
        simp
    · rw [squeezeBars_other hblank hbar, squeezeBars_other hblank hbar, ih]
      simp

theorem shortenRules_append_newline (dashes : Option Nat) (u v : List Char) :
    shortenRules dashes (u ++ '\n' :: v) = shortenRules dashes u ++ '\n' :: shortenRules none v := by
  induction u generalizing dashes with
  | nil => rw [List.nil_append, shortenRules_other (by decide) (by decide), shortenRules_nil]
  | cons c u ih =>
    rw [List.cons_append]
    by_cases hdash : c = '-'
    · subst hdash
      cases dashes with
      | none => rw [shortenRules_dash_none, shortenRules_dash_none, ih, List.cons_append]
      | some n => rw [shortenRules_dash_some, shortenRules_dash_some, ih]
    by_cases hbar : c = '|'
    · subst hbar
      rw [shortenRules_bar, shortenRules_bar, ih]
      simp
    · rw [shortenRules_other hdash hbar, shortenRules_other hdash hbar, ih]
      simp

theorem tidy_append_newline (u v : List Char) : tidy (u ++ '\n' :: v) = tidy u ++ '\n' :: tidy v := by
  rw [tidy, squeezeBars_append_newline, shortenRules_append_newline, tidy, tidy]

theorem tidy_joinLines (ls : List (List Char)) : tidy (joinLines ls) = joinLines (ls.map tidy) := by
  induction ls with
  | nil => rfl
  | cons l ls ih =>
    by_cases hls : ls = []
    · subst hls
      rw [List.map_singleton, joinLines_singleton, joinLines_singleton]
    · rw [joinLines_cons l hls, tidy_append_newline, ih, List.map_cons,
        joinLines_cons _ (mt List.map_eq_nil_iff.mp hls)]

/-! ## What stays -/

theorem count_squeezeBars {c : Char} (hc : c ≠ ' ') (drop : Bool) (blanks : Nat) (cs : List Char) :
    (squeezeBars drop blanks cs).count c = cs.count c := by
  have hblanks : ∀ n, (List.replicate n ' ').count c = 0 := fun n => by
    simp [List.count_replicate, Ne.symm hc]
  induction cs generalizing drop blanks with
  | nil => rw [squeezeBars_nil, hblanks, List.count_nil]
  | cons d cs ih =>
    by_cases hblank : d = ' '
    · subst hblank
      rw [List.count_cons_of_ne (Ne.symm hc)]
      cases drop with
      | false => rw [squeezeBars_blank, ih]
      | true => rw [squeezeBars_blank_drop, ih]
    by_cases hbar : d = '|'
    · subst hbar
      have hblank' : (' ' :: squeezeBars true 0 cs).count c = (squeezeBars true 0 cs).count c :=
        List.count_cons_of_ne (Ne.symm hc)
      have hlead : (if blanks = 0 then [] else [' ']).count c = 0 := by
        split
        · rfl
        · exact hblanks 1
      rw [squeezeBars_bar, List.count_append, hlead, Nat.zero_add, List.count_cons, List.count_cons]
      split
      · rw [hblank', ih]
      · rw [ih]
    · rw [squeezeBars_other hblank hbar, List.count_append, hblanks, Nat.zero_add, List.count_cons, ih, List.count_cons]

theorem count_shortenRules {c : Char} (hc : c ≠ '-') (dashes : Option Nat) (cs : List Char) :
    (shortenRules dashes cs).count c = cs.count c := by
  have hdashes : ∀ n, (List.replicate n '-').count c = 0 := fun n => by
    simp [List.count_replicate, Ne.symm hc]
  induction cs generalizing dashes with
  | nil => rw [shortenRules_nil, hdashes, List.count_nil]
  | cons d cs ih =>
    by_cases hdash : d = '-'
    · subst hdash
      rw [List.count_cons_of_ne (Ne.symm hc)]
      cases dashes with
      | none => rw [shortenRules_dash_none, List.count_cons_of_ne (Ne.symm hc), ih]
      | some n => rw [shortenRules_dash_some, ih]
    by_cases hbar : d = '|'
    · subst hbar
      have hlead : (if dashes.getD 0 = 0 then [] else ['-', '-', '-']).count c = 0 := by
        split
        · rfl
        · exact hdashes 3
      rw [shortenRules_bar, List.count_append, hlead, Nat.zero_add, List.count_cons, ih, List.count_cons]
    · rw [shortenRules_other hdash hbar, List.count_append, hdashes, Nat.zero_add, List.count_cons, ih, List.count_cons]

/-- Nothing but blanks and dashes is cut. -/
theorem count_tidy {c : Char} (hblank : c ≠ ' ') (hdash : c ≠ '-') (cs : List Char) :
    (tidy cs).count c = cs.count c := by
  rw [tidy, count_shortenRules hdash, count_squeezeBars hblank]

/-! ## Rows of cells -/

theorem barRow_eq {cells : List (List Char)} (h : cells ≠ []) :
    barRow cells = '|' :: cells.flatMap fun c => ' ' :: c ++ [' ', '|'] := by
  rw [barRow, List.cons_append, List.cons_inj_right]
  induction cells with
  | nil => exact absurd rfl h
  | cons c cells ih =>
    by_cases hcells : cells = []
    · subst hcells
      simp
    · rw [List.map_cons, List.intercalate_cons_of_ne_nil (mt List.map_eq_nil_iff.mp hcells), List.append_assoc,
        ih hcells, List.flatMap_cons]
      simp

theorem ruleRow_eq {widths : List Nat} (h : widths ≠ []) :
    ruleRow widths = '|' :: widths.flatMap fun w => List.replicate (w + 2) '-' ++ ['|'] := by
  rw [ruleRow, List.cons_append, List.cons_inj_right]
  induction widths with
  | nil => exact absurd rfl h
  | cons w widths ih =>
    by_cases hwidths : widths = []
    · subst hwidths
      simp
    · rw [List.map_cons, List.intercalate_cons_of_ne_nil (mt List.map_eq_nil_iff.mp hwidths), List.append_assoc,
        List.append_assoc, ih hwidths, List.flatMap_cons, List.append_assoc]

theorem squeezeBars_padded (drop : Bool) (blanks k : Nat) (u v : List Char) :
    squeezeBars drop blanks (u ++ List.replicate k ' ' ++ ' ' :: '|' :: v) =
      squeezeBars drop blanks (u ++ ' ' :: '|' :: v) := by
  induction u generalizing drop blanks with
  | nil =>
    rw [List.nil_append, List.nil_append]
    cases drop with
    | false => rw [squeezeBars_blanks, squeezeBars_blank, squeezeBars_blank, squeezeBars_succ_bar, squeezeBars_succ_bar]
    | true => rw [squeezeBars_blanks_drop]
  | cons c u ih =>
    rw [List.cons_append, List.cons_append, List.cons_append]
    by_cases hblank : c = ' '
    · subst hblank
      cases drop with
      | false => rw [squeezeBars_blank, squeezeBars_blank, ih]
      | true => rw [squeezeBars_blank_drop, squeezeBars_blank_drop, ih]
    by_cases hbar : c = '|'
    · subst hbar
      have hhead : (u ++ List.replicate k ' ' ++ ' ' :: '|' :: v).head? = (u ++ ' ' :: '|' :: v).head? := by
        cases u with
        | nil => cases k <;> rfl
        | cons d u => rfl
      rw [squeezeBars_bar, squeezeBars_bar, hhead, ih, ih]
    · rw [squeezeBars_other hblank hbar, squeezeBars_other hblank hbar, ih]

/-- The blanks that cells are padded with on their right leave no trace. -/
theorem tidy_barRow_padded {shown cells : List (List Char)}
    (h : List.Forall₂ (fun s c => ∃ k, c = s ++ List.replicate k ' ') shown cells) :
    tidy (barRow cells) = tidy (barRow shown) := by
  have hrun : ∀ u, squeezeBars false 0 (u ++ cells.flatMap fun c => ' ' :: c ++ [' ', '|']) =
      squeezeBars false 0 (u ++ shown.flatMap fun c => ' ' :: c ++ [' ', '|']) := by
    induction h with
    | nil => exact fun u => rfl
    | @cons s c shown cells hsc _ ih =>
      intro u
      obtain ⟨k, rfl⟩ := hsc
      have hpad := squeezeBars_padded false 0 k (u ++ ' ' :: s) (cells.flatMap fun c => ' ' :: c ++ [' ', '|'])
      have hrest := ih (u ++ ' ' :: s ++ [' ', '|'])
      simp only [List.append_assoc, List.cons_append, List.nil_append, List.flatMap_cons] at hpad hrest ⊢
      rw [hpad, hrest]
  by_cases hshown : shown = []
  · subst hshown
    rw [List.forall₂_nil_left_iff.mp h]
  · have hcells : cells ≠ [] := by
      rintro rfl
      exact hshown (List.forall₂_nil_right_iff.mp h)
    rw [barRow_eq hshown, barRow_eq hcells, tidy, tidy]
    exact congrArg (shortenRules none) (hrun ['|'])

/-- A cell between two bars, where the blanks of an empty one are one. -/
def betweenBars (c : List Char) : List Char := if c = [] then [' ', '|'] else ' ' :: c ++ [' ', '|']

/-- A cell: it has no bars, and no blanks at its ends. -/
structure IsCell (c : List Char) : Prop where
  noBar : '|' ∉ c
  head : c.head? ≠ some ' '
  last : c.getLast? ≠ some ' '

theorem squeezeBars_inner (blanks : Nat) {d : Char} (hblank : d ≠ ' ') (hbar : d ≠ '|') {x : List Char} (hx : '|' ∉ x)
    (rest : List Char) :
    squeezeBars false blanks (x ++ d :: rest) =
      List.replicate blanks ' ' ++ x ++ d :: squeezeBars false 0 rest := by
  induction x generalizing blanks with
  | nil => rw [List.nil_append, List.append_nil, squeezeBars_other hblank hbar]
  | cons c x ih =>
    rw [List.mem_cons, not_or] at hx
    rw [List.cons_append]
    by_cases hc : c = ' '
    · subst hc
      rw [squeezeBars_blank, ih _ hx.2, List.replicate_succ']
      simp
    · rw [squeezeBars_other hc (Ne.symm hx.1), ih _ hx.2]
      simp

theorem IsCell.squeezeBars {c : List Char} (h : IsCell c) (hne : c ≠ []) (rest : List Char) :
    squeezeBars true 0 (c ++ rest) = c ++ squeezeBars false 0 rest := by
  obtain ⟨x, d, rfl⟩ : ∃ x d, c = x ++ [d] := ⟨_, _, (List.dropLast_append_getLast hne).symm⟩
  have hd : d ≠ ' ' := by simpa using h.last
  have hnoBar := h.noBar
  rw [List.mem_append, List.mem_singleton, not_or] at hnoBar
  have hinner := squeezeBars_inner 0 hd (Ne.symm hnoBar.2) hnoBar.1 rest
  rw [List.append_assoc, List.append_assoc]
  refine Eq.trans ?_ hinner
  cases x with
  | nil => exact squeezeBars_drop hd rest
  | cons c x =>
    have hc : c ≠ ' ' := by simpa using h.head
    exact squeezeBars_drop hc _

theorem squeezeBars_cells {cells : List (List Char)} (h : ∀ c ∈ cells, IsCell c) :
    squeezeBars false 0 ('|' :: cells.flatMap fun c => ' ' :: c ++ [' ', '|']) = '|' :: cells.flatMap betweenBars := by
  induction cells with
  | nil => rfl
  | cons c cells ih =>
    have hc := h c List.mem_cons_self
    have ih' := ih fun d hd => h d (List.mem_cons_of_mem c hd)
    rw [List.flatMap_cons, List.flatMap_cons, betweenBars, List.cons_append, List.cons_append, squeezeBars_bar_blank,
      List.append_assoc, List.cons_append, List.cons_append, List.nil_append]
    by_cases hne : c = []
    · subst hne
      rw [if_pos rfl, List.nil_append, squeezeBars_blank_drop, squeezeBars_drop (by decide), ih']
      rfl
    · rw [if_neg hne, hc.squeezeBars hne, squeezeBars_blank, squeezeBars_succ_bar, ih']
      simp

theorem shortenRules_noBar {x : List Char} (hx : '|' ∉ x) (rest : List Char) :
    shortenRules none (x ++ '|' :: rest) = x ++ '|' :: shortenRules (some 0) rest := by
  induction x with
  | nil => rw [List.nil_append, List.nil_append, shortenRules_bar]; rfl
  | cons c x ih =>
    rw [List.mem_cons, not_or] at hx
    have ih' := ih hx.2
    by_cases hdash : c = '-'
    · subst hdash
      rw [List.cons_append, shortenRules_dash_none, ih', List.cons_append]
    · rw [List.cons_append, shortenRules_other hdash (Ne.symm hx.1), ih', List.cons_append]
      rfl

theorem shortenRules_cells {cells : List (List Char)} (h : ∀ c ∈ cells, '|' ∉ c) :
    shortenRules (some 0) (cells.flatMap betweenBars) = cells.flatMap betweenBars := by
  induction cells with
  | nil => rfl
  | cons c cells ih =>
    have ih' := ih fun d hd => h d (List.mem_cons_of_mem c hd)
    obtain ⟨x, hx, hcell⟩ : ∃ x, '|' ∉ x ∧ betweenBars c = ' ' :: x ++ ['|'] := by
      unfold betweenBars
      split
      · exact ⟨[], List.not_mem_nil, rfl⟩
      · refine ⟨c ++ [' '], ?_, by simp⟩
        simpa using h c List.mem_cons_self
    rw [List.flatMap_cons, hcell, List.append_assoc, List.cons_append, shortenRules_other (by decide) (by decide),
      List.singleton_append, shortenRules_noBar hx, ih']
    simp

/-- A row of cells as it is shown: one blank on either side of a cell, whatever else there was. -/
theorem tidy_barRow_of_isCell {cells : List (List Char)} (hne : cells ≠ []) (h : ∀ c ∈ cells, IsCell c) :
    tidy (barRow cells) = '|' :: cells.flatMap betweenBars := by
  rw [barRow_eq hne, tidy, squeezeBars_cells h, shortenRules_bar, shortenRules_cells fun c hc => (h c hc).noBar]
  rfl

/-- The line below the header as it is shown. -/
def shownRule (count : Nat) : List Char := '|' :: (List.replicate count ['-', '-', '-', '|']).flatten

theorem squeezeBars_of_noBlank {cs : List Char} (h : ' ' ∉ cs) : squeezeBars false 0 cs = cs := by
  induction cs with
  | nil => rfl
  | cons c cs ih =>
    rw [List.mem_cons, not_or] at h
    have ih' := ih h.2
    by_cases hbar : c = '|'
    · subst hbar
      have hhead : cs.head? ≠ some ' ' := fun e => h.2 (List.mem_of_mem_head? e)
      rw [squeezeBars_bar, if_neg hhead, ih', if_pos rfl, List.nil_append]
    · rw [squeezeBars_other (Ne.symm h.1) hbar, ih']
      rfl

/-- The rule below the header does not tell the widths of the columns. -/
theorem tidy_ruleRow {widths : List Nat} (h : widths ≠ []) : tidy (ruleRow widths) = shownRule widths.length := by
  have hblank : ' ' ∉ '|' :: widths.flatMap fun w => List.replicate (w + 2) '-' ++ ['|'] := by
    simp [List.mem_replicate]
  rw [ruleRow_eq h, tidy, squeezeBars_of_noBlank hblank, shortenRules_bar, shownRule]
  refine congrArg ('|' :: ·) ?_
  clear h hblank
  induction widths with
  | nil => rfl
  | cons w widths ih =>
    rw [List.flatMap_cons, List.append_assoc, shortenRules_dashes, List.singleton_append, shortenRules_bar, ih,
      List.length_cons, List.replicate_succ, List.flatten_cons]
    rfl

/-! ## Bars and line feeds of rows -/

theorem count_barRow {c : Char} (hc : c ≠ ' ') {cells : List (List Char)} (hne : cells ≠ []) :
    (barRow cells).count c = (if c = '|' then cells.length + 1 else 0) + cells.flatten.count c := by
  have hcells : (cells.flatMap fun d => ' ' :: d ++ [' ', '|']).count c =
      (if c = '|' then cells.length else 0) + cells.flatten.count c := by
    clear hne
    induction cells with
    | nil => simp
    | cons d cells ih =>
      rw [List.flatMap_cons, List.count_append, ih, List.flatten_cons, List.count_append]
      by_cases hbar : c = '|'
      · subst hbar
        simp
        omega
      · simp [Ne.symm hc, Ne.symm hbar, hbar]
  rw [barRow_eq hne, List.count_cons, hcells]
  by_cases hbar : c = '|'
  · subst hbar
    simp
    omega
  · simp [hbar, Ne.symm hbar]

end ModuleDocs.Table
