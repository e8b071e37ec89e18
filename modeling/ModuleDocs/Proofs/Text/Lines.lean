import Mathlib.Data.List.Induction
import ModuleDocs.Proofs.Text.Split
import ModuleDocs.Text.Blank
import ModuleDocs.Text.Lines

/-! # Cutting into lines, joining and trimming

Lines that are joined and cut again are the same lines (`lines_joinLines`), and cutting off the blank
characters at the two ends of a joined text only touches its outermost lines (`trimmed_unlines`): the blank
ones go, and the first and the last that are left lose their blanks on one side. -/
set_option autoImplicit false

namespace ModuleDocs.Text

/-! ## Lines have no line ends -/

/-- A line: none of its characters ends a line. -/
def IsLine (l : List Char) : Prop := ∀ c ∈ l, isLineEnd c = false

instance (l : List Char) : Decidable (IsLine l) :=
  decidable_of_iff (l.all (!isLineEnd ·) = true) <| by simp [IsLine]

theorem isLine_nil : IsLine [] := fun c hc => by cases hc

theorem IsLine.of_subset {l k : List Char} (h : IsLine l) (hk : k ⊆ l) : IsLine k :=
  fun c hc => h c (hk hc)

theorem lines_return_feed (rest : List Char) : lines ('\r' :: '\n' :: rest) = [] :: lines rest := rfl

/-- A character in front of a text ends an empty line, or it is added to the first line. -/
theorem lines_cons {c : Char} {cs : List Char} (hcs : c = '\r' → ∀ rest, cs ≠ '\n' :: rest) :
    lines (c :: cs) = if isLineEnd c then [] :: lines cs else consFirst c (lines cs) := by
  rw [lines]
  · cases lines cs <;> rfl
  · exact fun rest hc => hcs hc rest

theorem lines_cons_of_isLineEnd {c : Char} (hc : isLineEnd c = true) {cs : List Char}
    (hcs : c = '\r' → ∀ rest, cs ≠ '\n' :: rest) : lines (c :: cs) = [] :: lines cs := by
  rw [lines_cons hcs, if_pos hc]

/-- The first line of a text grows by a character in front of the text that ends no line. -/
theorem lines_cons_of_not_isLineEnd {c : Char} (hc : isLineEnd c = false) (cs : List Char) :
    lines (c :: cs) = consFirst c (lines cs) := by
  have hr : c ≠ '\r' := by
    rintro rfl
    exact absurd hc (by decide)
  rw [lines_cons fun h => absurd h hr, if_neg (by simp [hc])]

theorem isLine_of_mem_lines {cs l : List Char} (h : l ∈ lines cs) : IsLine l := by
  induction cs generalizing l with
  | nil => cases h
  | cons c cs ih =>
    by_cases hpair : c = '\r' ∧ ∃ rest, cs = '\n' :: rest
    · -- the lines behind a line end of two characters are also behind its second one
      obtain ⟨rfl, rest, rfl⟩ := hpair
      rw [lines_return_feed] at h
      refine ih ?_
      rwa [lines_cons_of_isLineEnd (by decide) fun hc => absurd hc (by decide)]
    · have hcs : c = '\r' → ∀ rest, cs ≠ '\n' :: rest := fun hc rest hrest => hpair ⟨hc, rest, hrest⟩
      by_cases hc : isLineEnd c = true
      · rw [lines_cons_of_isLineEnd hc hcs, List.mem_cons] at h
        rcases h with rfl | h
        · exact isLine_nil
        · exact ih h
      · have hc : isLineEnd c = false := by simpa using hc
        rw [lines_cons_of_not_isLineEnd hc] at h
        cases hlines : lines cs with
        | nil =>
          rw [hlines, consFirst, List.mem_singleton] at h
          subst h
          intro d hd
          rw [List.mem_singleton.mp hd, hc]
        | cons line more =>
          rw [hlines, consFirst, List.mem_cons] at h
          rw [hlines] at ih
          rcases h with rfl | h
          · intro d hd
            rcases List.mem_cons.mp hd with rfl | hd
            · exact hc
            · exact ih List.mem_cons_self d hd
          · exact ih (List.mem_cons_of_mem _ h)

/-! ## Cutting what was joined -/

theorem lines_append_newline {l : List Char} (h : IsLine l) (cs : List Char) :
    lines (l ++ '\n' :: cs) = l :: lines cs := by
  induction l with
  | nil =>
    rw [List.nil_append, lines_cons_of_isLineEnd (by decide) fun h => absurd h (by decide)]
  | cons c l ih =>
    have ih' := ih (h.of_subset (List.subset_cons_self c l))
    rw [List.cons_append, lines_cons_of_not_isLineEnd (h c List.mem_cons_self), ih', consFirst]

@[simp] theorem joinLines_singleton (l : List Char) : joinLines [l] = l := by
  rw [joinLines, List.intercalate_singleton]

theorem joinLines_cons {ls : List (List Char)} (l : List Char) (h : ls ≠ []) :
    joinLines (l :: ls) = l ++ '\n' :: joinLines ls := by
  rw [joinLines, List.intercalate_cons_of_ne_nil h, joinLines, List.append_assoc, List.singleton_append]

theorem joinLines_concat {ls : List (List Char)} (l : List Char) (h : ls ≠ []) :
    joinLines (ls ++ [l]) = joinLines ls ++ '\n' :: l := by
  induction ls with
  | nil => exact absurd rfl h
  | cons k ls ih =>
    rw [List.cons_append, joinLines_cons k (List.concat_ne_nil l ls)]
    by_cases hls : ls = []
    · subst hls
      rw [List.nil_append, joinLines_singleton, joinLines_singleton]
    · rw [ih hls, joinLines_cons k hls, List.append_assoc, List.cons_append]

theorem lines_joinLines {ls : List (List Char)} (hne : ls ≠ []) (h : ∀ l ∈ ls, IsLine l) :
    lines (joinLines ls ++ ['\n']) = ls := by
  induction ls with
  | nil => exact absurd rfl hne
  | cons l ls ih =>
    have hl : IsLine l := h l List.mem_cons_self
    by_cases hls : ls = []
    · subst hls
      rw [joinLines_singleton, lines_append_newline hl]
      rfl
    · have ih' := ih hls (fun k hk => h k (List.mem_cons_of_mem l hk))
      rw [joinLines_cons l hls, List.append_assoc, List.cons_append, lines_append_newline hl, ih']

theorem isLineEnd_of_mem_joinLines {ls : List (List Char)} (h : ∀ l ∈ ls, IsLine l) {c : Char}
    (hc : c ∈ joinLines ls) : isLineEnd c = false ∨ c = '\n' := by
  induction ls with
  | nil => cases hc
  | cons l ls ih =>
    have hl : IsLine l := h l List.mem_cons_self
    by_cases hls : ls = []
    · subst hls
      rw [joinLines_singleton] at hc
      exact .inl (hl c hc)
    · rw [joinLines_cons l hls, List.mem_append, List.mem_cons] at hc
      rcases hc with hc | rfl | hc
      · exact .inl (hl c hc)
      · exact .inr rfl
      · exact ih (fun k hk => h k (List.mem_cons_of_mem l hk)) hc

/-- Line ends may be read in any way: the lines stay the same. -/
theorem lines_unifyNewlines (cs : List Char) : lines (unifyNewlines cs) = lines cs := by
  have hfeed : ∀ rest, lines ('\n' :: rest) = [] :: lines rest := fun rest =>
    lines_cons_of_isLineEnd (by decide) fun h => absurd h (by decide)
  induction cs using unifyNewlines.induct with
  | case1 => rw [unifyNewlines]
  | case2 rest ih => rw [unifyNewlines, hfeed, lines_return_feed, ih]
  | case3 rest hrest ih =>
    have hreturn : lines ('\r' :: rest) = [] :: lines rest :=
      lines_cons_of_isLineEnd (by decide) fun _ => hrest
    rw [unifyNewlines, hfeed, hreturn, ih]
    exact hrest
  | case4 c rest hpair hc ih =>
    have hunify : unifyNewlines (c :: rest) = c :: unifyNewlines rest := by
      rw [unifyNewlines]
      · exact hpair
      · exact hc
    rw [hunify]
    by_cases hend : isLineEnd c = true
    · rw [lines_cons_of_isLineEnd hend fun h => absurd h hc, lines_cons_of_isLineEnd hend fun h => absurd h hc, ih]
    · have hend' : isLineEnd c = false := by simpa using hend
      rw [lines_cons_of_not_isLineEnd hend', lines_cons_of_not_isLineEnd hend', ih]

/-- A text that has no line ends but line feeds is cut by them into its lines, except that a line feed at its end is
followed by an empty piece. -/
theorem splitOn_newline {cs : List Char} (h : ∀ c ∈ cs, isLineEnd c = true → c = '\n') :
    splitOn ['\n'] cs = lines cs ∨ splitOn ['\n'] cs = lines cs ++ [[]] := by
  induction cs with
  | nil => exact .inr rfl
  | cons c cs ih =>
    have ih' := ih fun d hd => h d (List.mem_cons_of_mem c hd)
    by_cases hc : c = '\n'
    · subst hc
      have hlines : lines ('\n' :: cs) = [] :: lines cs :=
        lines_cons_of_isLineEnd (by decide) fun e => absurd e (by decide)
      rw [splitOn_cons_self, hlines]
      rcases ih' with e | e
      · exact .inl (by rw [e])
      · exact .inr (by rw [e, List.cons_append])
    · have hend : isLineEnd c = false := by
        rw [Bool.eq_false_iff]
        exact fun e => hc (h c List.mem_cons_self e)
      rw [splitOn_cons_of_ne hc, lines_cons_of_not_isLineEnd hend]
      rcases ih' with e | e
      · exact .inl (by rw [e])
      · rw [e]
        cases lines cs with
        | nil => exact .inl rfl
        | cons line more => exact .inr rfl

theorem unifyNewlines_of_not_mem {cs : List Char} (h : '\r' ∉ cs) : unifyNewlines cs = cs := by
  induction cs with
  | nil => rw [unifyNewlines]
  | cons c cs ih =>
    have hc : c ≠ '\r' := fun e => h (e ▸ List.mem_cons_self)
    have hcs : '\r' ∉ cs := fun hm => h (List.mem_cons_of_mem c hm)
    rw [unifyNewlines, ih hcs]
    · intro rest e
      exact absurd e hc
    · exact hc

/-! ## Trimming the ends of a text -/

theorem trimStart_append (a b : List Char) :
    trimStart (a ++ b) = if a.all isBlank then trimStart b else trimStart a ++ b := by
  have hiff : (a.dropWhile isBlank).isEmpty = a.all isBlank := by
    induction a with
    | nil => rfl
    | cons c a ih => by_cases hc : isBlank c <;> simp [hc, ih]
  rw [trimStart, List.dropWhile_append, hiff]
  rfl

theorem trimEnd_append (a b : List Char) :
    trimEnd (a ++ b) = if b.all isBlank then trimEnd a else a ++ trimEnd b := by
  have h := trimStart_append b.reverse a.reverse
  rw [List.all_reverse] at h
  simp only [trimEnd, List.reverse_append]
  unfold trimStart at h
  rw [h]
  split
  · rfl
  · rw [List.reverse_append, List.reverse_reverse]

theorem trimStart_eq_nil {l : List Char} (h : l.all isBlank = true) : trimStart l = [] := by
  have happend := trimStart_append l []
  rwa [List.append_nil, if_pos h] at happend

theorem trimStart_append_cons {c : Char} (hc : isBlank c = false) (a b : List Char) :
    trimStart (a ++ c :: b) = trimStart a ++ c :: b := by
  rw [trimStart_append]
  split
  · next ha =>
    rw [trimStart_eq_nil ha, List.nil_append, trimStart, List.dropWhile_cons_of_neg (by simp [hc])]
  · rfl

theorem trimEnd_append_cons {c : Char} (hc : isBlank c = false) (a b : List Char) :
    trimEnd (a ++ c :: b) = a ++ c :: trimEnd b := by
  have h := trimStart_append_cons hc b.reverse a.reverse
  rw [trimEnd, trimEnd, List.reverse_append, List.reverse_cons, List.append_assoc, List.singleton_append]
  unfold trimStart at h
  rw [h]
  simp

theorem trimStart_subset (l : List Char) : trimStart l ⊆ l := (List.dropWhile_sublist isBlank).subset

theorem trimEnd_subset (l : List Char) : trimEnd l ⊆ l := by
  intro c hc
  rw [trimEnd, List.mem_reverse] at hc
  exact List.mem_reverse.mp ((List.dropWhile_sublist isBlank).subset hc)

theorem all_trimStart (l : List Char) : (trimStart l).all isBlank = l.all isBlank := by
  induction l with
  | nil => rfl
  | cons c l ih =>
    unfold trimStart at *
    by_cases hc : isBlank c <;> simp [hc, ih]

theorem trimStart_trimStart (l : List Char) : trimStart (trimStart l) = trimStart l := by
  induction l with
  | nil => rfl
  | cons c l ih =>
    unfold trimStart at *
    by_cases hc : isBlank c <;> simp [hc, ih]

theorem trimEnd_eq (l : List Char) : trimEnd l = (trimStart l.reverse).reverse := rfl

theorem all_trimEnd (l : List Char) : (trimEnd l).all isBlank = l.all isBlank := by
  rw [trimEnd_eq, List.all_reverse, all_trimStart, List.all_reverse]

theorem trimEnd_trimEnd (l : List Char) : trimEnd (trimEnd l) = trimEnd l := by
  rw [trimEnd_eq, trimEnd_eq, List.reverse_reverse, trimStart_trimStart]

theorem trimEnd_isPrefix (l : List Char) : trimEnd l <+: l := by
  rw [trimEnd_eq, ← List.reverse_suffix, List.reverse_reverse]
  exact List.dropWhile_suffix isBlank

theorem trim_subset (l : List Char) : trim l ⊆ l :=
  List.Subset.trans (trimEnd_subset _) (trimStart_subset l)

theorem mem_trimStart {c : Char} (hc : isBlank c = false) {l : List Char} : c ∈ trimStart l ↔ c ∈ l := by
  refine ⟨fun h => trimStart_subset l h, fun h => ?_⟩
  rw [← List.takeWhile_append_dropWhile (p := isBlank) (l := l), List.mem_append] at h
  refine h.resolve_left fun hfront => ?_
  have hblank := List.all_eq_true.mp (List.all_takeWhile (p := isBlank) (l := l)) c hfront
  rw [hc] at hblank
  cases hblank

theorem mem_trim {c : Char} (hc : isBlank c = false) {l : List Char} : c ∈ trim l ↔ c ∈ l := by
  rw [trim, trimEnd_eq, List.mem_reverse, mem_trimStart hc, List.mem_reverse, mem_trimStart hc]

section Ends
variable {c : Char} (hc : isBlank c = true) (l : List Char)
include hc

theorem head?_trimStart_ne : (trimStart l).head? ≠ some c := by
  intro h
  have hblank := List.head?_dropWhile_not isBlank l
  rw [show (l.dropWhile isBlank).head? = some c from h] at hblank
  simp [hc] at hblank

theorem getLast?_trim_ne : (trim l).getLast? ≠ some c := by
  rw [trim, trimEnd_eq, List.getLast?_reverse]
  exact head?_trimStart_ne hc _

theorem head?_trim_ne : (trim l).head? ≠ some c := by
  intro h
  obtain ⟨rest, hrest⟩ := trimEnd_isPrefix (trimStart l)
  refine head?_trimStart_ne hc l ?_
  rw [← hrest, List.head?_append, show (trimEnd (trimStart l)).head? = some c from h]
  rfl

end Ends

end ModuleDocs.Text

namespace ModuleDocs

open ModuleDocs.Text

/-! ## Trimming the outermost lines -/

def isBlankLine (l : String) : Bool := l.toList.all isBlank

/-- Lines without the blank ones in front, and with the first other one cut. -/
def trimOuter (cut : List Char → List Char) : List String → List String
  | [] => []
  | l :: more => if isBlankLine l then trimOuter cut more else String.ofList (cut l.toList) :: more

/-- Lines as they are left when the blanks at the start of the text are cut off. -/
def trimTop (ls : List String) : List String := trimOuter trimStart ls

/-- Lines as they are left when the blanks at the end of the text are cut off. -/
def trimBottom (ls : List String) : List String := (trimOuter trimEnd ls.reverse).reverse

section TrimOuter
variable {cut : List Char → List Char}

/-- A line that is not blank and that the cut does not touch shields all lines behind it. -/
theorem trimOuter_append {m : String} (hm : isBlankLine m = false) (hcut : cut m.toList = m.toList)
    (ls rest : List String) : trimOuter cut (ls ++ m :: rest) = trimOuter cut ls ++ m :: rest := by
  induction ls with
  | nil =>
    rw [trimOuter, List.nil_append, trimOuter, hm, hcut, String.ofList_toList]
    rfl
  | cons l ls ih =>
    rw [List.cons_append, trimOuter, trimOuter]
    by_cases hl : isBlankLine l
    · rw [if_pos hl, if_pos hl, ih]
    · rw [if_neg hl, if_neg hl, List.cons_append]

theorem trimOuter_trimOuter (hcut : ∀ l, cut (cut l) = cut l)
    (hall : ∀ l, (cut l).all isBlank = l.all isBlank) (ls : List String) :
    trimOuter cut (trimOuter cut ls) = trimOuter cut ls := by
  induction ls with
  | nil => rfl
  | cons l ls ih =>
    rw [trimOuter]
    by_cases hl : isBlankLine l
    · rw [if_pos hl, ih]
    · have hl' : ¬ isBlankLine (String.ofList (cut l.toList)) := by
        rwa [isBlankLine, String.toList_ofList, hall]
      rw [if_neg hl, trimOuter, if_neg hl', String.toList_ofList, hcut]

/-- A line that is left is one of the lines, or the first that is not blank after the cut. -/
theorem mem_trimOuter {ls : List String} {m : String} (h : m ∈ trimOuter cut ls) :
    m ∈ ls ∨ ∃ l, ls.find? (!isBlankLine ·) = some l ∧ m = String.ofList (cut l.toList) := by
  induction ls with
  | nil => exact .inl h
  | cons l ls ih =>
    rw [trimOuter] at h
    by_cases hl : isBlankLine l
    · rw [if_pos hl] at h
      have hfind : (l :: ls).find? (!isBlankLine ·) = ls.find? (!isBlankLine ·) := by
        rw [List.find?_cons_of_neg (by simp [hl])]
      rcases ih h with h | h
      · exact .inl (List.mem_cons_of_mem l h)
      · exact .inr (hfind ▸ h)
    · rw [if_neg hl, List.mem_cons] at h
      have hfind : (l :: ls).find? (!isBlankLine ·) = some l := by
        rw [List.find?_cons_of_pos (by simp [hl])]
      rcases h with h | h
      · exact .inr ⟨l, hfind, h⟩
      · exact .inl (List.mem_cons_of_mem l h)

end TrimOuter

theorem trimTop_trimTop (ls : List String) : trimTop (trimTop ls) = trimTop ls :=
  trimOuter_trimOuter trimStart_trimStart all_trimStart ls

theorem trimBottom_trimBottom (ls : List String) : trimBottom (trimBottom ls) = trimBottom ls := by
  rw [trimBottom, trimBottom, List.reverse_reverse, trimOuter_trimOuter trimEnd_trimEnd all_trimEnd]

theorem trimTop_append {m : String} (hm : isBlankLine m = false) (hcut : trimStart m.toList = m.toList)
    (ls rest : List String) : trimTop (ls ++ m :: rest) = trimTop ls ++ m :: rest :=
  trimOuter_append hm hcut ls rest

theorem trimBottom_append {m : String} (hm : isBlankLine m = false) (hcut : trimEnd m.toList = m.toList)
    (rest ls : List String) : trimBottom (rest ++ m :: ls) = rest ++ m :: trimBottom ls := by
  have e : (rest ++ m :: ls).reverse = ls.reverse ++ m :: rest.reverse := by simp
  rw [trimBottom, e, trimOuter_append hm hcut, trimBottom]
  simp

/-! ## Lines of trimmed texts -/

theorem trimStart_joinLines (ls : List String) :
    trimStart (joinLines (ls.map String.toList)) = joinLines ((trimTop ls).map String.toList) := by
  induction ls with
  | nil => rfl
  | cons l ls ih =>
    rw [trimTop, trimOuter, isBlankLine, ← trimTop, List.map_cons]
    by_cases hls : ls = []
    · subst hls
      have h := trimStart_append l.toList []
      rw [List.append_nil, List.append_nil] at h
      rw [List.map_nil, joinLines_singleton]
      by_cases hl : l.toList.all isBlank
      · rw [h, if_pos hl, if_pos hl]
        rfl
      · rw [if_neg hl, List.map_cons, List.map_nil, joinLines_singleton, String.toList_ofList]
    · have hmap : ls.map String.toList ≠ [] := fun e => hls (List.map_eq_nil_iff.mp e)
      rw [joinLines_cons _ hmap, trimStart_append]
      by_cases hl : l.toList.all isBlank
      · have hn : isBlank '\n' = true := by decide
        rw [if_pos hl, if_pos hl, ← ih]
        simp [trimStart, hn]
      · rw [if_neg hl, if_neg hl, List.map_cons, joinLines_cons _ hmap, String.toList_ofList]

theorem trimEnd_joinLines (ls : List String) :
    trimEnd (joinLines (ls.map String.toList)) = joinLines ((trimBottom ls).map String.toList) := by
  -- Induction from the back: the last line decides whether the text before it is touched.
  induction ls using List.reverseRecOn with
  | nil => rfl
  | append_singleton ls l ih =>
    rw [trimBottom, List.reverse_concat, trimOuter, isBlankLine, List.map_append, List.map_cons, List.map_nil]
    by_cases hls : ls = []
    · subst hls
      have h := trimEnd_append [] l.toList
      rw [List.nil_append, List.nil_append] at h
      rw [List.map_nil, List.nil_append, joinLines_singleton]
      by_cases hl : l.toList.all isBlank
      · rw [h, if_pos hl, if_pos hl]
        rfl
      · rw [if_neg hl]
        simp
    · have hmap : ls.map String.toList ≠ [] := fun e => hls (List.map_eq_nil_iff.mp e)
      have e : joinLines (ls.map String.toList) ++ '\n' :: l.toList =
          (joinLines (ls.map String.toList) ++ ['\n']) ++ l.toList := by simp
      rw [joinLines_concat _ hmap, e, trimEnd_append]
      by_cases hl : l.toList.all isBlank
      · have hn : ['\n'].all isBlank = true := by decide
        rw [if_pos hl, if_pos hl, trimEnd_append, if_pos hn, ih, trimBottom]
      · rw [if_neg hl, if_neg hl, List.reverse_cons, List.reverse_reverse, List.map_append, List.map_cons,
          List.map_nil, String.toList_ofList, joinLines_concat _ hmap]
        simp

theorem trimmed_unlines (ls : List String) : trimmed (unlines ls) = unlines (trimBottom (trimTop ls)) := by
  rw [trimmed, unlines, unlines, String.toList_ofList, trim, trimStart_joinLines, trimEnd_joinLines]

theorem linesOf_unlines {ls : List String} (hne : ls ≠ []) (h : ∀ l ∈ ls, IsLine l.toList) :
    linesOf (unlines ls ++ "\n") = ls := by
  have hmap : ls.map String.toList ≠ [] := fun e => hne (List.map_eq_nil_iff.mp e)
  have hline : ∀ l ∈ ls.map String.toList, IsLine l := by
    intro l hl
    obtain ⟨k, hk, rfl⟩ := List.mem_map.mp hl
    exact h k hk
  have e : (unlines ls ++ "\n").toList = joinLines (ls.map String.toList) ++ ['\n'] := by
    rw [String.toList_append, unlines, String.toList_ofList]
    rfl
  rw [linesOf, e, lines_joinLines hmap hline, List.map_map]
  simp

theorem isLine_of_mem_linesOf {s l : String} (h : l ∈ linesOf s) : IsLine l.toList := by
  obtain ⟨k, hk, rfl⟩ := List.mem_map.mp h
  rw [String.toList_ofList]
  exact isLine_of_mem_lines hk

theorem isLine_of_mem_trimOuter {cut : List Char → List Char} (hcut : ∀ l, cut l ⊆ l) {ls : List String}
    (h : ∀ l ∈ ls, IsLine l.toList) {m : String} (hm : m ∈ trimOuter cut ls) : IsLine m.toList := by
  rcases mem_trimOuter hm with hm | ⟨l, hl, rfl⟩
  · exact h m hm
  · rw [String.toList_ofList]
    exact (h l (List.mem_of_find?_eq_some hl)).of_subset (hcut l.toList)

theorem unifyNewlines_unlines {ls : List String} (h : ∀ l ∈ ls, IsLine l.toList) :
    unifyNewlines (unlines ls ++ "\n").toList = (unlines ls ++ "\n").toList := by
  apply unifyNewlines_of_not_mem
  intro hr
  rw [String.toList_append, unlines, String.toList_ofList, List.mem_append] at hr
  rcases hr with hr | hr
  · have hline : ∀ l ∈ ls.map String.toList, IsLine l := by
      intro l hl
      obtain ⟨k, hk, rfl⟩ := List.mem_map.mp hl
      exact h k hk
    rcases isLineEnd_of_mem_joinLines hline hr with e | e
    · exact absurd e (by decide)
    · exact absurd e (by decide)
  · exact absurd hr (by decide)

end ModuleDocs
