import ModuleDocs.Proofs.DescriptionLayout
import ModuleDocs.Proofs.Text.TrimmedLines

/-! # Blanks around a description

A description is not trimmed before it is cut into lines, so blank lines at its two ends are lines like others. Each of
them adds a line break to the layout (`layoutLines_blanks`), with one exception: the line break after the end of an item
is left out, and where no list closes behind that end, a first blank line at the end adds nothing. -/
set_option autoImplicit false

namespace ModuleDocs.Description

open Text

/-! ## Items in a text -/

/-- Some text stands between the start of an item and the end of one. -/
def HasItem (cs : List Char) : Prop := ∃ a x b, x ≠ [] ∧ cs = a ++ (itemStart ++ (x ++ (itemEnd ++ b)))

/-- The text ends with the end of an item, but has no item. -/
def EndsWithoutItem (cs : List Char) : Prop := itemEnd <:+ cs ∧ ¬ HasItem cs

/-- With an item, there is text between the first start of one and the last end of one. -/
theorem HasItem.exists_outermost {cs : List Char} (h : HasItem cs) :
    ∃ a x b, cs = a ++ (itemStart ++ (x ++ (itemEnd ++ b))) ∧ x ≠ [] ∧ ¬ itemStart <:+: a ∧ ¬ itemEnd <:+: b := by
  obtain ⟨a, x, b, hx, rfl⟩ := h
  have hfront : ∃ a' x', a ++ (itemStart ++ x) = a' ++ (itemStart ++ x') ∧ x' ≠ [] ∧ ¬ itemStart <:+: a' := by
    by_cases hin : itemStart <:+: a
    · obtain ⟨a', r, rfl, ha'⟩ := exists_first areMarks_itemStart hin
      exact ⟨a', r ++ (itemStart ++ x), by simp only [List.append_assoc], by simp [hx], ha'⟩
    · exact ⟨a, x, rfl, hx, hin⟩
  obtain ⟨a', x', hfront, hx', ha'⟩ := hfront
  have hback : ∃ x'' b', x' ++ (itemEnd ++ b) = x'' ++ (itemEnd ++ b') ∧ x'' ≠ [] ∧ ¬ itemEnd <:+: b' := by
    by_cases hin : itemEnd <:+: b
    · obtain ⟨r, b', rfl, hb'⟩ := exists_last (by decide) hin
      exact ⟨x' ++ (itemEnd ++ r), b', by simp only [List.append_assoc], by simp [hx'], hb'⟩
    · exact ⟨x', b, rfl, hx', hin⟩
  obtain ⟨x'', b', hback, hx'', hb'⟩ := hback
  refine ⟨a', x'', b', ?_, hx'', ha', hb'⟩
  calc a ++ (itemStart ++ (x ++ (itemEnd ++ b)))
      = a ++ (itemStart ++ x) ++ (itemEnd ++ b) := by simp only [List.append_assoc]
    _ = a' ++ (itemStart ++ (x' ++ (itemEnd ++ b))) := by rw [hfront]; simp only [List.append_assoc]
    _ = a' ++ (itemStart ++ (x'' ++ (itemEnd ++ b'))) := by rw [hback]

theorem wrapList_of_not_hasItem {cs : List Char} (h : ¬ HasItem cs) : wrapList cs = cs := by
  by_cases hstart : itemStart <:+: cs
  · by_cases hend : itemEnd <:+: cs
    · obtain ⟨a, r, hfirst, ha⟩ := exists_first areMarks_itemStart hstart
      obtain ⟨p, b, hlast, hb⟩ := exists_last (by decide) hend
      have hsearch : findFirst? itemStart cs = some a.length := by rw [hfirst, findFirst?_append areMarks_itemStart ha]
      have hsearch' : findLast? itemEnd cs = some p.length := by rw [hlast, findLast?_append areMarks_itemEnd p hb]
      rw [wrapList, hsearch, hsearch']
      refine if_neg fun hlt => h ?_
      have hle : (a ++ itemStart).length ≤ p.length := by
        rw [List.length_append]
        omega
      have hwhole : a ++ itemStart ++ r = p ++ (itemEnd ++ b) := by rw [List.append_assoc, ← hfirst, hlast]
      obtain ⟨x, rfl⟩ := List.prefix_of_prefix_length_le (List.prefix_append _ r)
        (hwhole ▸ List.prefix_append p (itemEnd ++ b)) hle
      refine ⟨a, x, b, fun hx => ?_, by rw [hlast]; simp only [List.append_assoc]⟩
      rw [hx, List.append_nil, List.length_append] at hlt
      omega
    · rw [wrapList, findLast?_eq_none hend]
      cases findFirst? itemStart cs <;> rfl
  · exact wrapList_of_absent hstart

theorem not_infix_append {m m' a b : List Char} (hm : m ∈ tags) (hm' : m' ∈ tags) (hne : m' ≠ m) (ha : ¬ m' <:+: a)
    (hb : ¬ m' <:+: b) : ¬ m' <:+: a ++ (m ++ b) := by
  rw [infix_append_iff areMarks_tags hm hm']
  rintro (hin | heq | hin)
  · exact ha hin
  · exact hne heq
  · exact hb hin

theorem wrapList_lineBreak_append (cs : List Char) : wrapList (lineBreak ++ cs) = lineBreak ++ wrapList cs := by
  by_cases h : HasItem cs
  · obtain ⟨a, x, b, rfl, hx, ha, hb⟩ := h.exists_outermost
    have hfront : ¬ itemStart <:+: lineBreak ++ a := by
      rw [← List.nil_append (lineBreak ++ a)]
      exact not_infix_append lineBreak_mem_tags itemStart_mem_tags (by decide) (isTagFree_nil _ itemStart_mem_tags) ha
    rw [wrapList_append ha hx hb, ← List.append_assoc, wrapList_append hfront hx hb, List.append_assoc]
  · have hno : ¬ HasItem (lineBreak ++ cs) := by
      rintro ⟨a, x, b, hx, hcs⟩
      have hstart : lineBreak <+: a ++ (itemStart ++ (x ++ (itemEnd ++ b))) := hcs ▸ List.prefix_append lineBreak cs
      by_cases ha : a = []
      · rw [ha, List.nil_append] at hstart
        exact absurd (areMarks_tags.eq_of_starts itemStart_mem_tags lineBreak_mem_tags hstart) (by decide)
      · obtain ⟨a', rfl⟩ := areMarks_tags.prefix_left itemStart_mem_tags lineBreak_mem_tags ha hstart
        rw [List.append_assoc, List.append_cancel_left_eq] at hcs
        exact h ⟨a', x, b, hx, hcs⟩
    rw [wrapList_of_not_hasItem h, wrapList_of_not_hasItem hno]

theorem hasItem_of_append_lineBreak {cs : List Char} (h : HasItem (cs ++ lineBreak)) : HasItem cs := by
  obtain ⟨a, x, b, hx, hcs⟩ := h
  have hmid : a ++ (itemStart ++ (x ++ (itemEnd ++ b))) = a ++ (itemStart ++ x) ++ (itemEnd ++ b) := by
    simp only [List.append_assoc]
  -- Read as tags and characters, the text ends with the line break, which is not the end of the item.
  have hscan : scan tags cs ++ [.mark lineBreak] =
      scan tags (a ++ (itemStart ++ x)) ++ .mark itemEnd :: scan tags b := by
    have hnil : scan tags [] = [] := rfl
    rw [← scan_append areMarks_tags itemEnd_mem_tags, ← hmid, ← hcs, ← hnil,
      ← scan_append areMarks_tags lineBreak_mem_tags, List.append_nil]
  obtain hnil | ⟨ts, t, hts⟩ := List.eq_nil_or_concat (scan tags b)
  · rw [hnil] at hscan
    have hmark := Token.mark.inj (List.cons.inj (List.append_inj' hscan (by simp)).2).1
    exact absurd hmark (by decide)
  · rw [hts, List.concat_eq_append, ← List.cons_append, ← List.append_assoc] at hscan
    have hrest := (List.append_inj' hscan (by simp)).1
    refine ⟨a, x, ts.flatMap Token.written, hx, ?_⟩
    rw [← flatMap_written_scan areMarks_tags cs, hrest, List.flatMap_append, flatMap_written_scan areMarks_tags,
      List.flatMap_cons, Token.written, List.append_assoc, List.append_assoc]

theorem wrapList_append_lineBreak (cs : List Char) : wrapList (cs ++ lineBreak) = wrapList cs ++ lineBreak := by
  have hnil := isTagFree_nil itemEnd itemEnd_mem_tags
  by_cases h : HasItem cs
  · obtain ⟨a, x, b, rfl, hx, ha, hb⟩ := h.exists_outermost
    have hback : ¬ itemEnd <:+: b ++ lineBreak := by
      rw [← List.append_nil lineBreak]
      exact not_infix_append lineBreak_mem_tags itemEnd_mem_tags (by decide) hb hnil
    have hall := wrapList_append ha hx hback
    rw [wrapList_append ha hx hb]
    simpa only [List.append_assoc] using hall
  · rw [wrapList_of_not_hasItem h, wrapList_of_not_hasItem (mt hasItem_of_append_lineBreak h)]

theorem itemEnd_suffix_wrapList {cs : List Char} : itemEnd <:+ wrapList cs ↔ EndsWithoutItem cs := by
  have hnil := isTagFree_nil itemEnd itemEnd_mem_tags
  by_cases h : HasItem cs
  · refine iff_of_false ?_ fun hends => hends.2 h
    obtain ⟨a, x, b, rfl, hx, ha, hb⟩ := h.exists_outermost
    rw [wrapList_append ha hx hb]
    rintro ⟨w, hw⟩
    have hback : ¬ itemEnd <:+: listEnd ++ b := by
      rw [← List.nil_append (listEnd ++ b)]
      exact not_infix_append listEnd_mem_tags itemEnd_mem_tags (by decide) hnil hb
    have hlast := findLast?_append areMarks_itemEnd (a ++ (listStart ++ (itemStart ++ x))) hback
    have hlast' := findLast?_append areMarks_itemEnd w hnil
    simp only [List.append_assoc] at hlast
    rw [List.append_nil, hw, hlast, Option.some.injEq] at hlast'
    have hlen := congrArg List.length hw
    have hpos : 0 < listEnd.length := by decide
    simp only [List.length_append] at hlen hlast'
    omega
  · rw [wrapList_of_not_hasItem h, EndsWithoutItem, and_iff_left h]

/-! ## Line breaks at the two ends -/

def lineBreaks (n : Nat) : List Char := (List.replicate n lineBreak).flatten

theorem lineBreaks_succ (n : Nat) : lineBreaks (n + 1) = lineBreak ++ lineBreaks n := rfl

theorem lineBreaks_eq_nil {n : Nat} : lineBreaks n = [] ↔ n = 0 := by
  cases n with
  | zero => exact iff_of_true rfl rfl
  | succ n => exact iff_of_false (List.append_ne_nil_of_left_ne_nil (by decide) _) (Nat.succ_ne_zero n)

theorem wrapList_lineBreaks (k m : Nat) (cs : List Char) :
    wrapList (lineBreaks k ++ (cs ++ lineBreaks m)) = lineBreaks k ++ (wrapList cs ++ lineBreaks m) := by
  induction k with
  | zero =>
    show wrapList (cs ++ lineBreaks m) = wrapList cs ++ lineBreaks m
    induction m generalizing cs with
    | zero => rw [lineBreaks_eq_nil.mpr rfl, List.append_nil, List.append_nil]
    | succ m ih => rw [lineBreaks_succ, ← List.append_assoc, ih, wrapList_append_lineBreak, List.append_assoc]
  | succ k ih => rw [lineBreaks_succ, List.append_assoc, wrapList_lineBreak_append, ih, List.append_assoc]

theorem closeItems_lineBreaks (n : Nat) (cs : List Char) :
    closeItems (lineBreaks n ++ cs) = lineBreaks n ++ closeItems cs := by
  induction n with
  | zero => rfl
  | succ n ih =>
    rw [lineBreaks_succ, List.append_assoc, closeItems_tag lineBreak_mem_tags (by decide), ih, List.append_assoc]

/-- An end of an item with a line break after it reaches from a text into a line break only if the text ends with the
end of an item. -/
theorem closeItems_append_lineBreak {cs : List Char} (h : ¬ itemEnd <:+ cs) (b : List Char) :
    closeItems (cs ++ (lineBreak ++ b)) = closeItems cs ++ closeItems (lineBreak ++ b) := by
  refine replaceAll_append_of_apart areMarks_itemEnd_lineBreak fun d hpos hlt hsuffix hstart => h ?_
  have hsame : ∀ d < (itemEnd ++ lineBreak).length, 0 < d →
      (itemEnd ++ lineBreak).drop d <+: lineBreak ∨ lineBreak <+: (itemEnd ++ lineBreak).drop d →
      d = itemEnd.length := by decide
  have hd := hsame d hlt hpos (List.prefix_or_prefix_of_prefix hstart (List.prefix_append lineBreak b))
  rwa [hd, List.take_left] at hsuffix

theorem closeItems_append_itemEnd (cs : List Char) : closeItems (cs ++ itemEnd) = closeItems cs ++ itemEnd := by
  refine (replaceAll_append_of_apart areMarks_itemEnd_lineBreak fun d hpos hlt _ hstart => ?_).trans ?_
  · have hno : ∀ d < (itemEnd ++ lineBreak).length, 0 < d → ¬ (itemEnd ++ lineBreak).drop d <+: itemEnd := by decide
    exact hno d hlt hpos hstart
  · rfl

theorem closeItems_append_itemEnd_lineBreak (cs b : List Char) :
    closeItems (cs ++ (itemEnd ++ (lineBreak ++ b))) = closeItems (cs ++ itemEnd) ++ closeItems b := by
  rw [closeItems_append_itemEnd, List.append_assoc, ← closeItems_itemEnd_lineBreak]
  refine replaceAll_append_of_apart areMarks_itemEnd_lineBreak fun d hpos hlt _ hstart => ?_
  have hno : ∀ d < (itemEnd ++ lineBreak).length, 0 < d →
      ¬ ((itemEnd ++ lineBreak).drop d <+: itemEnd ∨ itemEnd <+: (itemEnd ++ lineBreak).drop d) := by decide
  exact hno d hlt hpos (List.prefix_or_prefix_of_prefix hstart (List.prefix_append itemEnd (lineBreak ++ b)))

/-- Of the line breaks behind a text, the first is left out if it follows the end of an item. -/
theorem exists_closeItems_append (cs : List Char) (m : Nat) :
    ∃ n, closeItems (cs ++ lineBreaks m) = closeItems cs ++ lineBreaks n ∧
      (n = 0 ↔ m = 0 ∨ m = 1 ∧ itemEnd <:+ cs) := by
  have hbreaks : ∀ n, closeItems (lineBreaks n) = lineBreaks n := fun n => by
    have := closeItems_lineBreaks n []
    rwa [List.append_nil, closeItems_of_absent (isTagFree_nil _ itemEnd_mem_tags), List.append_nil] at this
  cases m with
  | zero => exact ⟨0, by rw [lineBreaks_eq_nil.mpr rfl, List.append_nil, List.append_nil], by simp⟩
  | succ m =>
    by_cases hend : itemEnd <:+ cs
    · refine ⟨m, ?_, by simp [hend]⟩
      obtain ⟨a, rfl⟩ := hend
      rw [lineBreaks_succ, List.append_assoc, closeItems_append_itemEnd_lineBreak, hbreaks]
    · refine ⟨m + 1, ?_, by simp [hend]⟩
      rw [lineBreaks_succ, closeItems_append_lineBreak hend, ← lineBreaks_succ, hbreaks]

/-- Blank lines around others are line breaks around their layout. -/
theorem layoutLines_blanks (k m : Nat) {ls : List (List Char)} (hne : ls ≠ []) :
    ∃ n, layoutLines (List.replicate k [] ++ (ls ++ List.replicate m [])) =
        lineBreaks k ++ (layoutLines ls ++ lineBreaks n) ∧
      (n = 0 ↔ m = 0 ∨ m = 1 ∧ EndsWithoutItem (lineBreak.intercalate (ls.map listLine))) := by
  have hbreaks : ∀ n, (List.replicate n []).flatMap (· ++ lineBreak) = lineBreaks n := fun n => List.flatMap_replicate
  have hbreaks' : ∀ n, (List.replicate n []).flatMap (lineBreak ++ ·) = lineBreaks n := fun n => by
    rw [List.flatMap_replicate, List.append_nil, lineBreaks]
  have hlist : ∀ n, (List.replicate n []).map listLine = List.replicate n [] := fun n => List.map_replicate
  obtain ⟨n, hclose, hn⟩ := exists_closeItems_append (wrapList (lineBreak.intercalate (ls.map listLine))) m
  refine ⟨n, ?_, by rw [hn, itemEnd_suffix_wrapList]⟩
  rw [layoutLines, List.map_append, List.map_append, hlist, hlist,
    intercalate_around lineBreak _ (mt List.map_eq_nil_iff.mp hne), hbreaks, hbreaks', wrapList_lineBreaks,
    closeItems_lineBreaks, hclose, layoutLines]

/-! ## Blank lines at the two ends -/

/-- Lines without the blank ones at their two ends. -/
def innerLines (ls : List (List Char)) : List (List Char) := (ls.dropWhile List.isEmpty).rdropWhile List.isEmpty

/-- No blank line stands at an end, or one does at the lower end, after the end of an item that no list closes
behind. -/
def BlanksLeftOut (ls : List (List Char)) : Prop :=
  ls = innerLines ls ∨
    ls = innerLines ls ++ [[]] ∧ EndsWithoutItem (lineBreak.intercalate ((innerLines ls).map listLine))

theorem eq_replicate_of_isEmpty {ls : List (List Char)} (h : ∀ l ∈ ls, l.isEmpty = true) :
    ls = List.replicate ls.length [] :=
  List.eq_replicate_of_mem fun l hl => List.isEmpty_iff.mp (h l hl)

theorem exists_innerLines (ls : List (List Char)) :
    ∃ k m, ls = List.replicate k [] ++ (innerLines ls ++ List.replicate m []) := by
  have hfront := eq_replicate_of_isEmpty fun l (hl : l ∈ ls.takeWhile List.isEmpty) => List.mem_takeWhile_imp hl
  have hback := eq_replicate_of_isEmpty fun l (hl : l ∈ (ls.dropWhile List.isEmpty).rtakeWhile List.isEmpty) =>
    List.mem_rtakeWhile_imp hl
  refine ⟨(ls.takeWhile List.isEmpty).length, ((ls.dropWhile List.isEmpty).rtakeWhile List.isEmpty).length, ?_⟩
  rw [← hfront, ← hback, innerLines, List.rdropWhile_append_rtakeWhile, List.takeWhile_append_dropWhile]

theorem head?_innerLines (ls : List (List Char)) : (innerLines ls).head? ≠ some [] := by
  intro h
  obtain ⟨rest, hinner⟩ := List.head?_eq_some_iff.mp h
  obtain ⟨more, hmore⟩ := List.rdropWhile_prefix List.isEmpty (ls.dropWhile List.isEmpty)
  have hnot := List.head?_dropWhile_not List.isEmpty ls
  rw [← hmore, ← innerLines, hinner] at hnot
  cases hnot

theorem not_endsWithoutItem_nil : ¬ EndsWithoutItem [] := fun h => absurd h.1 (by decide)

theorem layoutLines_replicate_eq_nil {n : Nat} : layoutLines (List.replicate n []) = [] ↔ n = 0 ∨ n = 1 := by
  cases n with
  | zero => exact iff_of_true rfl (.inl rfl)
  | succ n =>
    obtain ⟨j, hlayout, hj⟩ := layoutLines_blanks 0 n (List.cons_ne_nil [] [])
    have hempty : layoutLines (List.replicate (n + 1) []) = lineBreaks j := hlayout
    have hno : ¬ EndsWithoutItem (lineBreak.intercalate ([[]].map listLine)) := not_endsWithoutItem_nil
    rw [hempty, lineBreaks_eq_nil, hj, or_iff_left fun h => hno h.2]
    omega

theorem lineBreaks_around_eq_self {k n : Nat} {cs : List Char} :
    lineBreaks k ++ (cs ++ lineBreaks n) = cs ↔ k = 0 ∧ n = 0 := by
  constructor
  · intro h
    have hlen := congrArg List.length h
    simp only [List.length_append] at hlen
    rw [← lineBreaks_eq_nil, ← lineBreaks_eq_nil, ← List.length_eq_zero_iff, ← List.length_eq_zero_iff]
    omega
  · rintro ⟨rfl, rfl⟩
    rw [lineBreaks_eq_nil.mpr rfl, List.append_nil, List.nil_append]

section Around
variable {inner : List (List Char)} {k m : Nat}

theorem blanks_around_eq_self :
    List.replicate k [] ++ (inner ++ List.replicate m []) = inner ↔ k = 0 ∧ m = 0 := by
  constructor
  · intro h
    have hlen := congrArg List.length h
    simp only [List.length_append, List.length_replicate] at hlen
    omega
  · rintro ⟨rfl, rfl⟩
    exact List.append_nil inner

theorem blanks_around_eq_append (hne : inner ≠ []) (hhead : inner.head? ≠ some []) :
    List.replicate k [] ++ (inner ++ List.replicate m []) = inner ++ [[]] ↔ k = 0 ∧ m = 1 := by
  constructor
  · intro h
    have hlen := congrArg List.length h
    simp only [List.length_append, List.length_replicate, List.length_singleton] at hlen
    cases k with
    | zero => omega
    | succ k =>
      have hsome := congrArg List.head? h
      rw [List.head?_append_of_ne_nil _ hne] at hsome
      exact absurd hsome.symm hhead
  · rintro ⟨rfl, rfl⟩
    rfl

theorem blanks_around_ne_singleton (hne : inner ≠ []) (hhead : inner.head? ≠ some []) :
    List.replicate k [] ++ (inner ++ List.replicate m []) ≠ [[]] := by
  intro h
  have hpos := List.length_pos_iff.mpr hne
  have hlen := congrArg List.length h
  simp only [List.length_append, List.length_replicate, List.length_singleton] at hlen
  obtain rfl : k = 0 := by omega
  have hfirst : (inner ++ List.replicate m []).head? = inner.head? := List.head?_append_of_ne_nil _ hne
  exact hhead (hfirst ▸ congrArg List.head? h)

end Around

/-- The layout shows the blank lines at the two ends, unless they are left out or one blank line is all there is. -/
theorem layoutLines_innerLines_iff (ls : List (List Char)) :
    layoutLines ls = layoutLines (innerLines ls) ↔ BlanksLeftOut ls ∨ ls = [[]] := by
  obtain ⟨k, m, hls⟩ := exists_innerLines ls
  have hhead := head?_innerLines ls
  rw [BlanksLeftOut]
  generalize innerLines ls = inner at hls hhead ⊢
  subst hls
  by_cases hinner : inner = []
  · subst hinner
    rw [List.nil_append, ← List.replicate_add]
    have hnil : layoutLines [] = [] := rfl
    have hno : ¬ EndsWithoutItem (lineBreak.intercalate (([] : List (List Char)).map listLine)) :=
      not_endsWithoutItem_nil
    have hone : List.replicate (k + m) [] = [([] : List Char)] ↔ k + m = 1 :=
      ⟨fun h => by simpa using congrArg List.length h, fun h => by rw [h]; rfl⟩
    have hnever : ¬ (List.replicate (k + m) [] = [] ++ [([] : List Char)] ∧
        EndsWithoutItem (lineBreak.intercalate (([] : List (List Char)).map listLine))) := fun h => hno h.2
    rw [hnil, layoutLines_replicate_eq_nil, hone, List.replicate_eq_nil_iff, or_iff_left hnever]
  · obtain ⟨n, hlayout, hn⟩ := layoutLines_blanks k m hinner
    rw [hlayout, lineBreaks_around_eq_self, hn, blanks_around_eq_self, blanks_around_eq_append hinner hhead,
      or_iff_left (blanks_around_ne_singleton hinner hhead), and_or_left, and_assoc]

end ModuleDocs.Description

namespace ModuleDocs

open Text Description

/-- Settings whose one rule puts a text into an empty description. -/
def withEmptyRule : Settings := { replace := [⟨"", "x", [], .description⟩] }

theorem withEmptyRule_succeeds (text : String) : ∃ out, withEmptyRule.replaceIn .description text = .ok out := ⟨_, rfl⟩

/-- The blanks around a description are irrelevant, whatever the rules, exactly if no blank line stands at an end of it,
or one does that its layout leaves out. -/
theorem description_trimmed_iff (d : String) :
    (∀ s : Settings, (∀ text, ∃ out, s.replaceIn .description text = .ok out) →
        s.description d = s.description (trimmed d)) ↔
      BlanksLeftOut ((lines d.toList).map trim) := by
  have hlines : (lines (trimmed d).toList).map trim = innerLines ((lines d.toList).map trim) := by
    rw [trimmed, String.toList_ofList, map_trim_lines_trim, innerLines]
  have hempty : ∀ t : String, (lines t.toList).map trim = [] → t = "" := fun t ht =>
    String.toList_eq_nil_iff.mp (lines_eq_nil_iff.mp (List.map_eq_nil_iff.mp ht))
  constructor
  · intro h
    have hplain : ∀ t, ({ replace := [] } : Settings).description t = .ok (String.ofList (layout t.toList)) := fun t =>
      (Settings.description_eq_ok (by simp)).mpr ⟨rfl, .inr ⟨[], rfl⟩⟩
    have hlayout := h { replace := [] } fun text => ⟨text, rfl⟩
    rw [hplain, hplain, Except.ok.injEq, String.ofList_inj, layout_eq_layoutLines, layout_eq_layoutLines, hlines,
      layoutLines_innerLines_iff] at hlayout
    refine hlayout.resolve_right fun hblank => ?_
    -- One blank line has the layout of no line, but the empty description is not given to the rules.
    have hnil : trimmed d = "" := hempty _ (by rw [hlines, hblank]; rfl)
    have hne : d ≠ "" := by
      rintro rfl
      cases hblank
    have hfilled : withEmptyRule.replaceIn .description (String.ofList (layoutLines [[]])) = .ok "x" := rfl
    have hrule := h withEmptyRule withEmptyRule_succeeds
    rw [hnil, Settings.description, if_neg hne, layout_eq_layoutLines, hblank, hfilled] at hrule
    exact absurd (Except.ok.inj hrule) (by decide)
  · intro h s _
    by_cases hd : d = ""
    · subst hd
      rfl
    have hne : trimmed d ≠ "" := by
      intro hnil
      rw [hnil] at hlines
      have hinner : innerLines ((lines d.toList).map trim) = [] := hlines.symm
      obtain heq | ⟨-, hends⟩ := h
      · exact hd (hempty d (heq.trans hinner))
      · rw [hinner] at hends
        exact not_endsWithoutItem_nil hends
    have hlayout := (layoutLines_innerLines_iff _).mpr (.inl h)
    rw [Settings.description, Settings.description, if_neg hd, if_neg hne, layout_eq_layoutLines, hlayout, ← hlines,
      ← layout_eq_layoutLines]

/-- A line end in front of a description shows. -/
theorem description_keepsBlankLine :
    (∀ text, ∃ out, ({ replace := [] } : Settings).replaceIn .description text = .ok out) ∧
      ({ replace := [] } : Settings).description "\na" = .ok "<br/>a" ∧
      ({ replace := [] } : Settings).description (trimmed "\na") = .ok "a" :=
  ⟨fun text => ⟨text, rfl⟩, rfl, rfl⟩

end ModuleDocs
