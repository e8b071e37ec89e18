import ModuleDocs.Description
import ModuleDocs.Proofs.Success
import ModuleDocs.Proofs.Text.Lines
import ModuleDocs.Proofs.Text.Marks

/-! # The layout of a description

Of a description without tags of its own, the layout is known exactly (`layoutLines_span`): the lines before the first
and after the last list line stand alone, and everything between these two stands in one list. Cut at its tags, it
gives back the texts of the lines, one by one. -/
set_option autoImplicit false

namespace ModuleDocs.Description

open ModuleDocs.Text

/-! ## Tags -/

/-- The tags that a layout is made of. -/
def tags : List (List Char) := [itemStart, itemEnd, listStart, listEnd, lineBreak]

theorem areMarks_tags : AreMarks tags := ⟨by decide, by decide⟩

theorem areMarks_itemStart : AreMarks [itemStart] := ⟨by decide, by decide⟩

theorem areMarks_itemEnd : AreMarks [itemEnd] := ⟨by decide, by decide⟩

theorem areMarks_itemEnd_lineBreak : AreMarks [itemEnd ++ lineBreak] := ⟨by decide, by decide⟩

theorem itemStart_mem_tags : itemStart ∈ tags := by decide

theorem itemEnd_mem_tags : itemEnd ∈ tags := by decide

theorem listStart_mem_tags : listStart ∈ tags := by decide

theorem listEnd_mem_tags : listEnd ∈ tags := by decide

theorem lineBreak_mem_tags : lineBreak ∈ tags := by decide

/-- A text in which no tag stands. -/
def IsTagFree (cs : List Char) : Prop := ∀ tag ∈ tags, ¬ tag <:+: cs

instance (cs : List Char) : Decidable (IsTagFree cs) := inferInstanceAs (Decidable (∀ tag ∈ tags, ¬ tag <:+: cs))

theorem IsTagFree.of_within {cs ds : List Char} (h : IsTagFree cs) (hd : ds <:+: cs) : IsTagFree ds :=
  fun tag htag hin => h tag htag (hin.trans hd)

theorem isTagFree_nil : IsTagFree [] := by decide

/-! ## Lines -/

/-- The text of a list line. -/
def itemText? : List Char → Option (List Char)
  | '-' :: ' ' :: c :: rest => some (c :: rest)
  | _ => none

/-- What a line says. -/
def lineText (line : List Char) : List Char := (itemText? line).getD line

theorem itemText?_eq_some {l x : List Char} : itemText? l = some x ↔ l = '-' :: ' ' :: x ∧ x ≠ [] := by
  constructor
  · intro h
    unfold itemText? at h
    split at h
    · cases h
      exact ⟨rfl, List.cons_ne_nil _ _⟩
    · cases h
  · rintro ⟨rfl, hx⟩
    obtain ⟨c, rest, rfl⟩ := List.exists_cons_of_ne_nil hx
    rfl

theorem listLine_of_some {l x : List Char} (h : itemText? l = some x) : listLine l = itemStart ++ (x ++ itemEnd) := by
  obtain ⟨rfl, hx⟩ := itemText?_eq_some.mp h
  obtain ⟨c, rest, rfl⟩ := List.exists_cons_of_ne_nil hx
  rw [listLine, List.append_assoc]

theorem listLine_of_none {l : List Char} (h : itemText? l = none) : listLine l = l := by
  unfold listLine
  split
  · cases h
  · rfl

theorem lineText_of_some {l x : List Char} (h : itemText? l = some x) : lineText l = x := by
  rw [lineText, h, Option.getD_some]

theorem lineText_of_none {l : List Char} (h : itemText? l = none) : lineText l = l := by
  rw [lineText, h, Option.getD_none]

theorem IsTagFree.of_itemText? {l x : List Char} (hl : IsTagFree l) (h : itemText? l = some x) : IsTagFree x := by
  obtain ⟨rfl, -⟩ := itemText?_eq_some.mp h
  exact hl.of_within (List.IsSuffix.isInfix (List.suffix_append ['-', ' '] x))

/-! ## Putting the list around its items -/

theorem wrapList_of_absent {cs : List Char} (h : ¬ itemStart <:+: cs) : wrapList cs = cs := by
  rw [wrapList, findFirst?_eq_none h]

theorem wrapList_append {a x b : List Char} (ha : ¬ itemStart <:+: a) (hx : x ≠ []) (hb : ¬ itemEnd <:+: b) :
    wrapList (a ++ (itemStart ++ (x ++ (itemEnd ++ b)))) =
      a ++ (listStart ++ (itemStart ++ (x ++ (itemEnd ++ (listEnd ++ b))))) := by
  have hfirst := findFirst?_append areMarks_itemStart ha (x ++ (itemEnd ++ b))
  have hlast := findLast?_append areMarks_itemEnd (a ++ (itemStart ++ x)) hb
  simp only [List.append_assoc] at hlast
  have hlt : a.length + itemStart.length < (a ++ (itemStart ++ x)).length := by
    have := List.length_pos_iff.mpr hx
    simp only [List.length_append]
    omega
  have hend : (a ++ (itemStart ++ x)).length + itemEnd.length = (a ++ (itemStart ++ (x ++ itemEnd))).length := by
    simp only [List.length_append, Nat.add_assoc]
  have hwhole : a ++ (itemStart ++ (x ++ (itemEnd ++ b))) = a ++ (itemStart ++ (x ++ itemEnd)) ++ b := by
    simp only [List.append_assoc]
  rw [wrapList, hfirst, hlast]
  dsimp only
  rw [if_pos hlt, hend, List.take_left, hwhole, List.take_left, List.drop_left, List.drop_left]
  simp only [List.append_assoc]

/-! ## Leaving out the line breaks after items -/

/-- Leaves out the line break that follows an item. -/
def closeItems (cs : List Char) : List Char := replaceAll (itemEnd ++ lineBreak) itemEnd cs

theorem closeItems_of_absent {a : List Char} (ha : ¬ itemEnd <:+: a) : closeItems a = a :=
  replaceAll_of_absent fun hold => ha ((List.prefix_append itemEnd lineBreak).isInfix.trans hold)

/-- A text in which no end of an item starts stays, whatever follows it. -/
theorem closeItems_append_of {a b : List Char} (h : ∀ d < a.length, ¬ itemEnd <+: a.drop d ++ b) :
    closeItems (a ++ b) = a ++ closeItems b :=
  replaceAll_append fun d hd hold => h d hd ((List.prefix_append itemEnd lineBreak).trans hold)

theorem closeItems_append {a m : List Char} (ha : ¬ itemEnd <:+: a) (hm : m ∈ tags) (b : List Char) :
    closeItems (a ++ (m ++ b)) = a ++ closeItems (m ++ b) := by
  refine closeItems_append_of fun d hd hstart => ha ?_
  have hne : a.drop d ≠ [] := by
    rw [ne_eq, List.drop_eq_nil_iff]
    omega
  exact (areMarks_tags.prefix_left hm itemEnd_mem_tags hne hstart).isInfix.trans (List.drop_suffix d a).isInfix

theorem eq_of_itemEnd_prefix_drop {m b : List Char} {d : Nat} (hm : m ∈ tags) (hd : d < m.length)
    (h : itemEnd <+: m.drop d ++ b) : d = 0 ∧ m = itemEnd :=
  areMarks_tags.apart m hm itemEnd itemEnd_mem_tags d hd
    (List.prefix_or_prefix_of_prefix (List.prefix_append (m.drop d) b) h)

theorem closeItems_tag {m : List Char} (hm : m ∈ tags) (hne : m ≠ itemEnd) (b : List Char) :
    closeItems (m ++ b) = m ++ closeItems b :=
  closeItems_append_of fun _ hd hstart => hne (eq_of_itemEnd_prefix_drop hm hd hstart).2

theorem closeItems_itemEnd_lineBreak (b : List Char) :
    closeItems (itemEnd ++ (lineBreak ++ b)) = itemEnd ++ closeItems b := by
  rw [closeItems, ← List.append_assoc, replaceAll_old_append areMarks_itemEnd_lineBreak, closeItems]

theorem closeItems_itemEnd_tag {m : List Char} (hm : m ∈ tags) (hne : m ≠ lineBreak) (b : List Char) :
    closeItems (itemEnd ++ (m ++ b)) = itemEnd ++ closeItems (m ++ b) := by
  refine replaceAll_append fun d hd hold => hne ?_
  have hzero := (eq_of_itemEnd_prefix_drop itemEnd_mem_tags hd ((List.prefix_append itemEnd lineBreak).trans hold)).1
  rw [hzero, List.drop_zero, List.prefix_append_right_inj] at hold
  exact (areMarks_tags.eq_of_starts hm lineBreak_mem_tags hold).symm

/-! ## Joined lines -/

section Joined
variable {m : List Char} (hm : m ∈ tags) (hne : m ≠ lineBreak) {ls : List (List Char)} (hls : ∀ l ∈ ls, IsTagFree l)
include hm hne hls

theorem not_infix_lines_lineBreak : ¬ m <:+: ls.flatMap (· ++ lineBreak) := by
  induction ls with
  | nil => exact isTagFree_nil m hm
  | cons l ls ih =>
    rw [List.forall_mem_cons] at hls
    rw [List.flatMap_cons, List.append_assoc, infix_append_iff areMarks_tags lineBreak_mem_tags hm]
    rintro (hin | heq | hin)
    · exact hls.1 m hm hin
    · exact hne heq
    · exact ih hls.2 hin

theorem not_infix_append_lines {t : List Char} (ht : IsTagFree t) : ¬ m <:+: t ++ ls.flatMap (lineBreak ++ ·) := by
  induction ls generalizing t with
  | nil =>
    rw [List.flatMap_nil, List.append_nil]
    exact ht m hm
  | cons l ls ih =>
    rw [List.forall_mem_cons] at hls
    rw [List.flatMap_cons, List.append_assoc, infix_append_iff areMarks_tags lineBreak_mem_tags hm]
    rintro (hin | heq | hin)
    · exact ht m hm hin
    · exact hne heq
    · exact ih hls.2 hls.1 hin

end Joined

/-! ## The layout of lines -/

/-- The layout of lines that are trimmed. -/
def layoutLines (ls : List (List Char)) : List Char := closeItems (wrapList (lineBreak.intercalate (ls.map listLine)))

theorem layout_eq_layoutLines (d : List Char) : layout d = layoutLines ((lines d).map trim) := by
  rw [layout, layoutLines, closeItems, List.map_map]
  rfl

/-- Lines from a list line to a list line. -/
structure IsSpan (ls : List (List Char)) : Prop where
  first : ∃ l ∈ ls.head?, (itemText? l).isSome
  last : ∃ l ∈ ls.getLast?, (itemText? l).isSome

/-- A line between the first and the last list line. -/
def spanLine (l : List Char) : List Char :=
  match itemText? l with
  | some x => itemStart ++ (x ++ itemEnd)
  | none => l ++ lineBreak

/-- Where there are list lines, they span a part of the lines. -/
theorem exists_span {ls : List (List Char)} (h : ∃ l ∈ ls, (itemText? l).isSome) :
    ∃ before mid after, ls = before ++ (mid ++ after) ∧ IsSpan mid ∧ (∀ l ∈ before, itemText? l = none) ∧
      ∀ l ∈ after, itemText? l = none := by
  obtain ⟨first, hfirst⟩ := Option.isSome_iff_exists.mp (List.find?_isSome.mpr h)
  obtain ⟨hitem, before, rest, rfl, hbefore⟩ := List.find?_eq_some_iff_append.mp hfirst
  have hrest : ∃ l ∈ (first :: rest).reverse, (itemText? l).isSome := ⟨first, by simp, hitem⟩
  obtain ⟨last, hlast⟩ := Option.isSome_iff_exists.mp (List.find?_isSome.mpr hrest)
  obtain ⟨hitem', after, front, hsplit, hafter⟩ := List.find?_eq_some_iff_append.mp hlast
  have hfront : first :: rest = front.reverse ++ [last] ++ after.reverse := by
    rw [← List.reverse_inj, hsplit]
    simp
  refine ⟨before, front.reverse ++ [last], after.reverse, by rw [hfront], ⟨⟨first, ?_, hitem⟩, last, by simp, hitem'⟩,
    fun l hl => by simpa using hbefore l hl, fun l hl => by simpa using hafter l (List.mem_reverse.mp hl)⟩
  have hhead := congrArg List.head? hfront
  rw [List.head?_append_of_ne_nil _ (by simp)] at hhead
  exact hhead.symm

theorem exists_append_itemEnd {ls : List (List Char)} (h : ∃ l ∈ ls.getLast?, (itemText? l).isSome) :
    ∃ y, lineBreak.intercalate (ls.map listLine) = y ++ itemEnd := by
  obtain ⟨l, hl, hitem⟩ := h
  obtain ⟨x, hx⟩ := Option.isSome_iff_exists.mp hitem
  obtain ⟨front, rfl⟩ := List.getLast?_eq_some_iff.mp hl
  refine ⟨(front.map listLine).flatMap (· ++ lineBreak) ++ (itemStart ++ x), ?_⟩
  have := intercalate_around lineBreak (front.map listLine) (List.cons_ne_nil (listLine l) []) []
  rw [List.append_nil, List.flatMap_nil, List.append_nil, List.intercalate_singleton] at this
  rw [List.map_append, List.map_singleton, this, listLine_of_some hx]
  simp only [List.append_assoc]

theorem IsSpan.exists_eq {mid : List (List Char)} (h : IsSpan mid) :
    ∃ x, x ≠ [] ∧ lineBreak.intercalate (mid.map listLine) = itemStart ++ (x ++ itemEnd) := by
  obtain ⟨l, hl, hitem⟩ := h.first
  obtain ⟨x, hx⟩ := Option.isSome_iff_exists.mp hitem
  have hne := (itemText?_eq_some.mp hx).2
  obtain ⟨more, rfl⟩ := List.head?_eq_some_iff.mp hl
  cases more with
  | nil => exact ⟨x, hne, by rw [List.map_singleton, List.intercalate_singleton, listLine_of_some hx]⟩
  | cons next more =>
    obtain ⟨y, hy⟩ := exists_append_itemEnd (by simpa [List.getLast?_cons_cons] using h.last)
    refine ⟨x ++ (itemEnd ++ (lineBreak ++ y)), by simp [hne], ?_⟩
    rw [List.map_cons, List.intercalate_cons_of_ne_nil (by simp), hy, listLine_of_some hx]
    simp only [List.append_assoc]

theorem spanLine_of_some {l x : List Char} (h : itemText? l = some x) : spanLine l = itemStart ++ (x ++ itemEnd) := by
  rw [spanLine, h]

theorem spanLine_of_none {l : List Char} (h : itemText? l = none) : spanLine l = l ++ lineBreak := by rw [spanLine, h]

theorem closeItems_item {x : List Char} (hx : IsTagFree x) (b : List Char) :
    closeItems (itemStart ++ (x ++ (itemEnd ++ b))) = itemStart ++ (x ++ closeItems (itemEnd ++ b)) := by
  rw [closeItems_tag itemStart_mem_tags (by decide), closeItems_append (hx itemEnd itemEnd_mem_tags) itemEnd_mem_tags]

theorem closeItems_span {mid : List (List Char)} (hlast : ∃ l ∈ mid.getLast?, (itemText? l).isSome)
    (hfree : ∀ l ∈ mid, IsTagFree l) (b : List Char) :
    closeItems (lineBreak.intercalate (mid.map listLine) ++ (listEnd ++ b)) =
      mid.flatMap spanLine ++ closeItems (listEnd ++ b) := by
  induction mid with
  | nil => simp at hlast
  | cons l mid ih =>
    rw [List.forall_mem_cons] at hfree
    by_cases hmid : mid = []
    · subst hmid
      have hitem : (itemText? l).isSome := by simpa using hlast
      obtain ⟨x, hx⟩ := Option.isSome_iff_exists.mp hitem
      rw [List.map_singleton, List.intercalate_singleton, List.flatMap_singleton, listLine_of_some hx,
        spanLine_of_some hx]
      simp only [List.append_assoc]
      rw [closeItems_item (hfree.1.of_itemText? hx), closeItems_itemEnd_tag listEnd_mem_tags (by decide)]
    · have hih := ih (by rwa [List.getLast?_cons_of_ne_nil hmid] at hlast) hfree.2
      rw [List.map_cons, List.intercalate_cons_of_ne_nil (by simpa using hmid), List.flatMap_cons]
      cases hl : itemText? l with
      | none =>
        rw [listLine_of_none hl, spanLine_of_none hl]
        simp only [List.append_assoc]
        rw [closeItems_append (hfree.1 itemEnd itemEnd_mem_tags) lineBreak_mem_tags,
          closeItems_tag lineBreak_mem_tags (by decide), hih]
      | some x =>
        rw [listLine_of_some hl, spanLine_of_some hl]
        simp only [List.append_assoc]
        rw [closeItems_item (hfree.1.of_itemText? hl), closeItems_itemEnd_lineBreak, hih]

theorem map_listLine_of_none {ls : List (List Char)} (h : ∀ l ∈ ls, itemText? l = none) : ls.map listLine = ls := by
  rw [List.map_congr_left fun l hl => listLine_of_none (h l hl), List.map_id']

theorem layoutLines_of_none {ls : List (List Char)} (hnone : ∀ l ∈ ls, itemText? l = none)
    (hfree : ∀ l ∈ ls, IsTagFree l) : layoutLines ls = lineBreak.intercalate ls := by
  have hjoined : ∀ m ∈ tags, m ≠ lineBreak → ¬ m <:+: lineBreak.intercalate ls := by
    intro m hm hne
    cases ls with
    | nil => exact isTagFree_nil m hm
    | cons l ls =>
      rw [List.forall_mem_cons] at hfree
      rw [intercalate_cons_eq]
      exact not_infix_append_lines hm hne hfree.2 hfree.1
  rw [layoutLines, map_listLine_of_none hnone, wrapList_of_absent (hjoined itemStart itemStart_mem_tags (by decide)),
    closeItems_of_absent (hjoined itemEnd itemEnd_mem_tags (by decide))]

/-- All lines from the first list line to the last one stand in one list, and the others around it. -/
theorem layoutLines_span {before mid after : List (List Char)} (hmid : IsSpan mid)
    (hbefore : ∀ l ∈ before, itemText? l = none) (hafter : ∀ l ∈ after, itemText? l = none)
    (hfree : ∀ l ∈ before ++ (mid ++ after), IsTagFree l) :
    layoutLines (before ++ (mid ++ after)) =
      lineBreak.intercalate (before ++ ([listStart ++ (mid.flatMap spanLine ++ listEnd)] ++ after)) := by
  simp only [List.forall_mem_append] at hfree
  obtain ⟨hfreeBefore, hfreeMid, hfreeAfter⟩ := hfree
  have hne : mid.map listLine ≠ [] := by
    intro hnil
    simpa [List.map_eq_nil_iff.mp hnil] using hmid.first
  obtain ⟨x, hx, hitems⟩ := hmid.exists_eq
  have hend : ∀ m ∈ tags, m ≠ lineBreak → ¬ m <:+: after.flatMap (lineBreak ++ ·) := fun m hm hm' =>
    not_infix_append_lines hm hm' hfreeAfter isTagFree_nil
  have hwrapped : wrapList (lineBreak.intercalate ((before ++ (mid ++ after)).map listLine)) =
      before.flatMap (· ++ lineBreak) ++ (listStart ++ (lineBreak.intercalate (mid.map listLine) ++
        (listEnd ++ after.flatMap (lineBreak ++ ·)))) := by
    rw [List.map_append, List.map_append, map_listLine_of_none hbefore, map_listLine_of_none hafter,
      intercalate_around lineBreak before hne after, hitems]
    simp only [List.append_assoc]
    exact wrapList_append (not_infix_lines_lineBreak itemStart_mem_tags (by decide) hfreeBefore) hx
      (hend itemEnd itemEnd_mem_tags (by decide))
  rw [layoutLines, hwrapped,
    closeItems_append (not_infix_lines_lineBreak itemEnd_mem_tags (by decide) hfreeBefore) listStart_mem_tags,
    closeItems_tag listStart_mem_tags (by decide), closeItems_span hmid.last hfreeMid,
    closeItems_tag listEnd_mem_tags (by decide), closeItems_of_absent (hend itemEnd itemEnd_mem_tags (by decide)),
    intercalate_around lineBreak before (List.cons_ne_nil _ []) after, List.intercalate_singleton]
  simp only [List.append_assoc]

/-! ## The texts between the tags -/

/-- The texts between the tags, without empty ones. -/
def texts (cs : List Char) : List (List Char) := (pieces (scan tags cs)).filter (· ≠ [])

theorem texts_append {m : List Char} (hm : m ∈ tags) (a b : List Char) :
    texts (a ++ (m ++ b)) = texts a ++ texts b := by
  rw [texts, scan_append areMarks_tags hm, pieces_append, List.filter_append, texts, texts]

theorem texts_of_isTagFree {t : List Char} (ht : IsTagFree t) : texts t = [t].filter (· ≠ []) := by
  rw [texts, scan_eq_map ht, pieces_map_char]

theorem texts_nil : texts [] = [] := rfl

theorem texts_intercalate (ls : List (List Char)) : texts (lineBreak.intercalate ls) = ls.flatMap texts := by
  induction ls with
  | nil => rfl
  | cons l ls ih =>
    cases ls with
    | nil => rw [List.intercalate_singleton, List.flatMap_singleton]
    | cons next ls =>
      rw [List.intercalate_cons_cons, List.append_assoc, texts_append lineBreak_mem_tags, ih, ← List.flatMap_cons]

theorem texts_spanLine_append {l : List Char} (hl : IsTagFree l) (b : List Char) :
    texts (spanLine l ++ b) = [lineText l].filter (· ≠ []) ++ texts b := by
  cases h : itemText? l with
  | none =>
    rw [spanLine_of_none h, lineText_of_none h, List.append_assoc, texts_append lineBreak_mem_tags,
      texts_of_isTagFree hl]
  | some x =>
    have hstart := texts_append itemStart_mem_tags [] (x ++ (itemEnd ++ b))
    rw [List.nil_append, texts_nil, List.nil_append, texts_append itemEnd_mem_tags,
      texts_of_isTagFree (hl.of_itemText? h)] at hstart
    rw [spanLine_of_some h, lineText_of_some h, List.append_assoc, List.append_assoc, hstart]

theorem texts_flatMap_spanLine {mid : List (List Char)} (hfree : ∀ l ∈ mid, IsTagFree l) (b : List Char) :
    texts (mid.flatMap spanLine ++ b) = (mid.map lineText).filter (· ≠ []) ++ texts b := by
  induction mid with
  | nil => rfl
  | cons l mid ih =>
    rw [List.forall_mem_cons] at hfree
    rw [List.flatMap_cons, List.append_assoc, texts_spanLine_append hfree.1, ih hfree.2, ← List.append_assoc,
      ← List.filter_append, List.map_cons, List.singleton_append]

theorem flatMap_texts_of_none {ls : List (List Char)} (hnone : ∀ l ∈ ls, itemText? l = none)
    (hfree : ∀ l ∈ ls, IsTagFree l) : ls.flatMap texts = (ls.map lineText).filter (· ≠ []) := by
  induction ls with
  | nil => rfl
  | cons l ls ih =>
    rw [List.forall_mem_cons] at hnone hfree
    rw [List.flatMap_cons, ih hnone.2 hfree.2, texts_of_isTagFree hfree.1, ← List.filter_append, List.map_cons,
      lineText_of_none hnone.1, List.singleton_append]

/-- Between the tags of a layout stands what its lines say. -/
theorem texts_layoutLines {ls : List (List Char)} (hfree : ∀ l ∈ ls, IsTagFree l) :
    texts (layoutLines ls) = (ls.map lineText).filter (· ≠ []) := by
  by_cases hitem : ∃ l ∈ ls, (itemText? l).isSome
  · obtain ⟨before, mid, after, rfl, hmid, hbefore, hafter⟩ := exists_span hitem
    rw [layoutLines_span hmid hbefore hafter hfree, texts_intercalate]
    simp only [List.forall_mem_append] at hfree
    have hlist : texts (listStart ++ (mid.flatMap spanLine ++ listEnd)) = (mid.map lineText).filter (· ≠ []) := by
      have hstart := texts_append listStart_mem_tags [] (mid.flatMap spanLine ++ listEnd)
      have hend := texts_append listEnd_mem_tags [] []
      rw [List.nil_append, texts_nil, List.nil_append] at hstart
      rw [List.nil_append, List.append_nil, texts_nil, List.nil_append] at hend
      rw [hstart, texts_flatMap_spanLine hfree.2.1, hend, List.append_nil]
    rw [List.flatMap_append, List.flatMap_append, List.flatMap_singleton, hlist, flatMap_texts_of_none hbefore hfree.1,
      flatMap_texts_of_none hafter hfree.2.2, List.map_append, List.map_append, List.filter_append, List.filter_append]
  · have hnone : ∀ l ∈ ls, itemText? l = none := by simpa using hitem
    rw [layoutLines_of_none hnone hfree, texts_intercalate, flatMap_texts_of_none hnone hfree]

theorem lineText_eq_nil {l : List Char} : lineText l = [] ↔ l = [] := by
  cases h : itemText? l with
  | none => rw [lineText_of_none h]
  | some x =>
    obtain ⟨rfl, hx⟩ := itemText?_eq_some.mp h
    simp [lineText_of_some h, hx]

theorem filter_map_lineText (ls : List (List Char)) :
    (ls.map lineText).filter (· ≠ []) = (ls.filter (· ≠ [])).map lineText := by
  rw [List.filter_map]
  congr 2
  funext l
  simp [lineText_eq_nil]

theorem isTagFree_trim {ls : List (List Char)} (h : ∀ l ∈ ls, IsTagFree l) : ∀ l ∈ ls.map trim, IsTagFree l := by
  intro l hl
  obtain ⟨line, hline, rfl⟩ := List.mem_map.mp hl
  exact (h line hline).of_within ((trimEnd_isPrefix _).isInfix.trans (List.dropWhile_suffix isBlank).isInfix)

end ModuleDocs.Description

namespace ModuleDocs

open Text Description

/-! ## Settings without a rule for descriptions -/

theorem ReplaceRule.column_of_filled {r r' : ReplaceRule} (h : r.filled = .ok r') : r'.column = r.column := by
  simp only [ReplaceRule.filled, bind_eq_ok, pure_eq_ok] at h
  obtain ⟨pattern, -, replace, -, rfl⟩ := h
  rfl

section NoRule
variable {s : Settings}

theorem Settings.replaceIn_of_column_ne {column : TextColumn} (h : ∀ r ∈ s.replace, r.column ≠ column)
    {text out : String} :
    s.replaceIn column text = .ok out ↔ (∃ rules, s.filledRules = .ok rules) ∧ out = text := by
  have hfilter : ∀ rules, s.filledRules = .ok rules → rules.filter (·.column = column) = [] := by
    intro rules hrules
    simp only [Settings.filledRules, bind_eq_ok] at hrules
    obtain ⟨_, -, hmap⟩ := hrules
    rw [List.filter_eq_nil_iff]
    intro r hr
    obtain ⟨r₀, hr₀, hfilled⟩ := exists_of_mem_mapM hmap hr
    simpa [ReplaceRule.column_of_filled hfilled] using h r₀ hr₀
  rw [Settings.replaceIn, bind_eq_ok]
  constructor
  · rintro ⟨rules, hrules, hout⟩
    rw [hfilter rules hrules, List.foldlM_nil, pure_eq_ok] at hout
    exact ⟨⟨rules, hrules⟩, hout.symm⟩
  · rintro ⟨⟨rules, hrules⟩, rfl⟩
    refine ⟨rules, hrules, ?_⟩
    rw [hfilter rules hrules, List.foldlM_nil, pure_eq_ok]

/-- Without a rule for descriptions, a description is its layout, if the rules for other columns can be filled in. -/
theorem Settings.description_eq_ok (hrules : ∀ r ∈ s.replace, r.column ≠ .description) {d out : String} :
    s.description d = .ok out ↔
      out = String.ofList (layout d.toList) ∧ (d = "" ∨ ∃ rules, s.filledRules = .ok rules) := by
  rw [Settings.description]
  split_ifs with hd
  · subst hd
    have hempty : String.ofList (layout "".toList) = "" := rfl
    rw [hempty, Except.ok.injEq]
    simp [eq_comm]
  · rw [Settings.replaceIn_of_column_ne hrules]
    simp [hd, and_comm]

/-- Cut at its tags, a description gives back the lines that it is made of. -/
theorem description_keepsText_iff (hrules : ∀ r ∈ s.replace, r.column ≠ .description) {d : String}
    (htags : ∀ line ∈ lines d.toList, IsTagFree line) :
    (∃ out, s.description d = .ok out ∧
        texts out.toList = (((lines d.toList).map trim).filter (· ≠ [])).map lineText) ↔
      d = "" ∨ ∃ rules, s.filledRules = .ok rules := by
  have htexts : texts (layout d.toList) = (((lines d.toList).map trim).filter (· ≠ [])).map lineText := by
    rw [layout_eq_layoutLines, texts_layoutLines (isTagFree_trim htags), filter_map_lineText]
  constructor
  · rintro ⟨out, hout, -⟩
    exact ((s.description_eq_ok hrules).mp hout).2
  · intro hfilled
    exact ⟨_, (s.description_eq_ok hrules).mpr ⟨rfl, hfilled⟩, by rw [String.toList_ofList, htexts]⟩

end NoRule

/-- Settings with one rule, for types. -/
def withTypeRule (pattern : String) : Settings := { replace := [⟨pattern, "", [], .type⟩] }

/-- Two lists with a text between them, and parts of tags where lines meet. -/
def mixedLines : String := "Lists: <
  - br/>

 - </li
> text
- last
"

theorem description_keepsText_mixedLines :
    (∀ r ∈ (withTypeRule "a").replace, r.column ≠ .description) ∧
      (∀ line ∈ lines mixedLines.toList, IsTagFree line) ∧
      ∃ out, (withTypeRule "a").description mixedLines = .ok out ∧
        texts out.toList = (((lines mixedLines.toList).map trim).filter (· ≠ [])).map lineText := by
  have hrules : ∀ r ∈ (withTypeRule "a").replace, r.column ≠ .description := by decide
  have htags : ∀ line ∈ lines mixedLines.toList, IsTagFree line := by decide +kernel
  exact ⟨hrules, htags, (description_keepsText_iff hrules htags).mpr (.inr ⟨[⟨"a", "", [], .type⟩], rfl⟩)⟩

/-- A rule for types that cannot be filled in leaves no description. -/
theorem description_fails_unfilledRule :
    (∀ r ∈ (withTypeRule "\x7bx\x7d").replace, r.column ≠ .description) ∧
      (∀ line ∈ lines "a".toList, IsTagFree line) ∧
      (withTypeRule "\x7bx\x7d").description "a" = .error .unknownField :=
  ⟨by decide, by decide +kernel, rfl⟩

end ModuleDocs
