import Mathlib.Data.List.Basic
import ModuleDocs.Proofs.DescriptionLayout

/-! # Lists in descriptions

List lines that follow each other make one list, so two of them with another line between make two lists. That is how
a description is laid out exactly when all its list lines stand together (`description_listsApart_iff`): there is
never more than one list in a layout. -/
set_option autoImplicit false

namespace ModuleDocs.Description

open ModuleDocs.Text

/-! ## Lines in groups -/

/-- What a laid out description consists of. -/
inductive Piece where
  | lineBreak
  | text (cs : List Char)
  | list (items : List (List Char))
deriving DecidableEq

namespace Piece

def written : Piece → List Char
  | lineBreak => Text.lineBreak
  | text cs => cs
  | list items => listStart ++ (items.flatMap (fun x => itemStart ++ (x ++ itemEnd)) ++ listEnd)

def isShown (p : Piece) : Bool := p ≠ lineBreak ∧ p ≠ text []

def isList : Piece → Bool
  | list _ => true
  | _ => false

end Piece

/-- The lines as pieces: every run of list lines as a list of its own, and every other line as a text. -/
def grouped : List (List Char) → List Piece
  | [] => []
  | l :: ls =>
    match itemText? l, grouped ls with
    | none, rest => .text l :: rest
    | some x, .list items :: rest => .list (x :: items) :: rest
    | some x, rest => .list [x] :: rest

/-- A text made of lines: of their lists and texts in their order, with line breaks anywhere between them. -/
def IsLaidOut (out : List Char) (ls : List (List Char)) : Prop :=
  ∃ ps : List Piece, out = ps.flatMap Piece.written ∧ ps.filter Piece.isShown = (grouped ls).filter Piece.isShown

/-- Lines of which all list lines follow each other. -/
def ItemsTogether (ls : List (List Char)) : Prop :=
  ∃ before run after, ls = before ++ (run ++ after) ∧ (∀ l ∈ before, itemText? l = none) ∧
    (∀ l ∈ run, (itemText? l).isSome) ∧ ∀ l ∈ after, itemText? l = none

theorem grouped_cons_of_none {l : List Char} (h : itemText? l = none) (ls : List (List Char)) :
    grouped (l :: ls) = .text l :: grouped ls := by
  rw [grouped, h]

theorem grouped_append_of_none {before : List (List Char)} (h : ∀ l ∈ before, itemText? l = none)
    (ls : List (List Char)) : grouped (before ++ ls) = before.map .text ++ grouped ls := by
  induction before with
  | nil => rfl
  | cons l before ih =>
    rw [List.forall_mem_cons] at h
    rw [List.cons_append, grouped_cons_of_none h.1, ih h.2, List.map_cons, List.cons_append]

theorem grouped_append_cons (p : List (List Char)) {t : List Char} (ht : itemText? t = none) (q : List (List Char)) :
    grouped (p ++ t :: q) = grouped p ++ .text t :: grouped q := by
  induction p with
  | nil => exact grouped_cons_of_none ht q
  | cons l p ih =>
    cases hl : itemText? l with
    | none => rw [List.cons_append, grouped_cons_of_none hl, grouped_cons_of_none hl, ih, List.cons_append]
    | some x =>
      rw [List.cons_append, grouped, grouped, hl, ih]
      cases hp : grouped p with
      | nil => rfl
      | cons piece pieces => cases piece <;> rfl

theorem grouped_run_append {l : List Char} {run after : List (List Char)} (hrun : ∀ k ∈ l :: run, (itemText? k).isSome)
    (hafter : ∀ k ∈ after, itemText? k = none) :
    grouped (l :: run ++ after) = .list ((l :: run).map lineText) :: after.map .text := by
  induction run generalizing l with
  | nil =>
    obtain ⟨x, hx⟩ := Option.isSome_iff_exists.mp (hrun l List.mem_cons_self)
    have hrest : grouped after = after.map .text := by
      have := grouped_append_of_none hafter []
      rwa [List.append_nil, grouped, List.append_nil] at this
    rw [List.cons_append, List.nil_append, grouped, hx, hrest, List.map_singleton, lineText_of_some hx]
    cases after <;> rfl
  | cons k run ih =>
    obtain ⟨x, hx⟩ := Option.isSome_iff_exists.mp (hrun l List.mem_cons_self)
    rw [List.cons_append, grouped, hx, ih fun k hk => hrun k (List.mem_cons_of_mem l hk), ← lineText_of_some hx]
    rfl

theorem exists_isList_grouped {ls : List (List Char)} (h : ∃ l ∈ ls, (itemText? l).isSome) :
    0 < (grouped ls).countP Piece.isList := by
  obtain ⟨l, hl, hitem⟩ := h
  induction ls with
  | nil => cases hl
  | cons k ls ih =>
    cases hk : itemText? k with
    | none =>
      have hne : l ≠ k := fun e => by simp [e, hk] at hitem
      rw [grouped_cons_of_none hk, List.countP_cons]
      exact Nat.lt_of_lt_of_le (ih ((List.mem_cons.mp hl).resolve_left hne)) (Nat.le_add_right _ _)
    | some x =>
      rw [grouped, hk]
      rw [List.countP_pos_iff]
      cases grouped ls with
      | nil => exact ⟨_, List.mem_cons_self, rfl⟩
      | cons piece pieces => cases piece <;> exact ⟨_, List.mem_cons_self, rfl⟩

/-! ## One list -/

theorem intercalate_written (ps : List Piece) :
    lineBreak.intercalate (ps.map Piece.written) = (ps.intersperse .lineBreak).flatMap Piece.written := by
  induction ps with
  | nil => rfl
  | cons p ps ih =>
    cases ps with
    | nil => simp
    | cons q ps =>
      rw [List.map_cons, List.map_cons, List.intercalate_cons_cons, ← List.map_cons, ih, List.intersperse_cons_cons,
        List.flatMap_cons, List.flatMap_cons, Piece.written.eq_def .lineBreak, List.append_assoc]

theorem filter_isShown_intersperse (ps : List Piece) :
    (ps.intersperse .lineBreak).filter Piece.isShown = ps.filter Piece.isShown := by
  induction ps with
  | nil => rfl
  | cons p ps ih =>
    cases ps with
    | nil => rfl
    | cons q ps =>
      have hbreak : ¬ Piece.isShown .lineBreak = true := by decide
      rw [List.intersperse_cons_cons, List.filter_cons, List.filter_cons_of_neg hbreak, ih, ← List.filter_cons]

theorem flatMap_spanLine_run {run : List (List Char)} (hrun : ∀ l ∈ run, (itemText? l).isSome) :
    run.flatMap spanLine = (run.map lineText).flatMap fun x => itemStart ++ (x ++ itemEnd) := by
  rw [List.flatMap_map]
  refine List.flatMap_congr fun l hl => ?_
  obtain ⟨x, hx⟩ := Option.isSome_iff_exists.mp (hrun l hl)
  rw [spanLine_of_some hx, lineText_of_some hx]

theorem isSpan_run {l : List Char} {run : List (List Char)} (hrun : ∀ k ∈ l :: run, (itemText? k).isSome) :
    IsSpan (l :: run) where
  first := ⟨l, rfl, hrun l List.mem_cons_self⟩
  last := ⟨_, List.getLast?_eq_some_getLast (List.cons_ne_nil l run), hrun _ (List.getLast_mem _)⟩

/-- The layout of lines with one run of list lines is their groups, with line breaks between them. -/
theorem layoutLines_of_itemsTogether {ls : List (List Char)} (h : ItemsTogether ls) (hfree : ∀ l ∈ ls, IsTagFree l) :
    layoutLines ls = lineBreak.intercalate ((grouped ls).map Piece.written) := by
  have hwritten : ∀ ls : List (List Char), (ls.map Piece.text).map Piece.written = ls := fun ls => by
    rw [List.map_map]
    exact List.map_id ls
  obtain ⟨before, run, after, rfl, hbefore, hrun, hafter⟩ := h
  cases run with
  | nil =>
    have hnone : ∀ l ∈ before ++ ([] ++ after), itemText? l = none := by
      rw [List.nil_append, List.forall_mem_append]
      exact ⟨hbefore, hafter⟩
    have hgrouped := grouped_append_of_none hnone []
    rw [List.append_nil, grouped, List.append_nil] at hgrouped
    rw [layoutLines_of_none hnone hfree, hgrouped, hwritten]
  | cons l run =>
    rw [layoutLines_span (isSpan_run hrun) hbefore hafter hfree, grouped_append_of_none hbefore,
      grouped_run_append hrun hafter, List.map_append, List.map_cons, hwritten, hwritten, flatMap_spanLine_run hrun]
    rfl

theorem isLaidOut_of_itemsTogether {ls : List (List Char)} (h : ItemsTogether ls) (hfree : ∀ l ∈ ls, IsTagFree l) :
    IsLaidOut (layoutLines ls) ls := by
  refine ⟨(grouped ls).intersperse .lineBreak, ?_, filter_isShown_intersperse _⟩
  rw [layoutLines_of_itemsTogether h hfree, intercalate_written]

/-! ## Counting lists -/

/-- The number of lists that are opened in a text. -/
def opened (cs : List Char) : Nat := (scan tags cs).count (.mark listStart)

theorem opened_append_listStart (a b : List Char) : opened (a ++ (listStart ++ b)) = opened a + (opened b + 1) := by
  rw [opened, scan_append areMarks_tags listStart_mem_tags, List.count_append, List.count_cons_self, opened, opened]

theorem opened_eq_zero {cs : List Char} (h : ¬ listStart <:+: cs) : opened cs = 0 := by
  rw [opened, List.count_eq_zero, mark_mem_scan areMarks_tags listStart_mem_tags]
  exact h

/-- Whatever stands before them, each list is opened once. -/
theorem countP_isList_le_opened (a : List Char) (ps : List Piece) :
    ps.countP Piece.isList ≤ opened (a ++ ps.flatMap Piece.written) := by
  induction ps generalizing a with
  | nil => exact Nat.zero_le _
  | cons p ps ih =>
    rw [List.flatMap_cons]
    cases p with
    | lineBreak =>
      rw [← List.append_assoc]
      exact ih _
    | text cs =>
      rw [← List.append_assoc]
      exact ih _
    | list items =>
      have hrest := ih (items.flatMap (fun x => itemStart ++ (x ++ itemEnd)) ++ listEnd)
      rw [List.countP_cons_of_pos rfl, Piece.written, List.append_assoc, opened_append_listStart]
      omega

theorem countP_isList_filter (ps : List Piece) :
    (ps.filter Piece.isShown).countP Piece.isList = ps.countP Piece.isList := by
  rw [List.countP_filter]
  refine List.countP_congr fun p _ => ?_
  cases p <;> simp [Piece.isList, Piece.isShown]

theorem IsLaidOut.countP_le {out : List Char} {ls : List (List Char)} (h : IsLaidOut out ls) :
    (grouped ls).countP Piece.isList ≤ opened out := by
  obtain ⟨ps, rfl, hps⟩ := h
  rw [← countP_isList_filter, ← hps, countP_isList_filter]
  exact countP_isList_le_opened [] ps

theorem opened_append {m : List Char} (hm : m ∈ tags) (hne : m ≠ listStart) (a b : List Char) :
    opened (a ++ (m ++ b)) = opened a + opened b := by
  have hmark : Token.mark m ≠ .mark listStart := fun e => hne (Token.mark.inj e)
  rw [opened, scan_append areMarks_tags hm, List.count_append, List.count_cons_of_ne hmark, opened, opened]

theorem opened_spanLine_append {l : List Char} (hl : IsTagFree l) (b : List Char) :
    opened (spanLine l ++ b) = opened b := by
  cases h : itemText? l with
  | none =>
    rw [spanLine_of_none h, List.append_assoc, opened_append lineBreak_mem_tags (by decide),
      opened_eq_zero (hl listStart listStart_mem_tags), Nat.zero_add]
  | some x =>
    have hx := hl.of_itemText? h
    have hstart := opened_append itemStart_mem_tags (by decide) [] (x ++ (itemEnd ++ b))
    rw [List.nil_append, opened_append itemEnd_mem_tags (by decide), opened_eq_zero (hx listStart listStart_mem_tags),
      opened_eq_zero (isTagFree_nil listStart listStart_mem_tags)] at hstart
    rw [spanLine_of_some h, List.append_assoc, List.append_assoc, hstart, Nat.zero_add, Nat.zero_add]

theorem opened_flatMap_spanLine {mid : List (List Char)} (hfree : ∀ l ∈ mid, IsTagFree l) :
    opened (mid.flatMap spanLine) = 0 := by
  induction mid with
  | nil => rfl
  | cons l mid ih =>
    rw [List.forall_mem_cons] at hfree
    rw [List.flatMap_cons, opened_spanLine_append hfree.1, ih hfree.2]

/-- From the first to the last list line, one list is opened. -/
theorem opened_layoutLines_span {before mid after : List (List Char)} (hmid : IsSpan mid)
    (hbefore : ∀ l ∈ before, itemText? l = none) (hafter : ∀ l ∈ after, itemText? l = none)
    (hfree : ∀ l ∈ before ++ (mid ++ after), IsTagFree l) : opened (layoutLines (before ++ (mid ++ after))) = 1 := by
  rw [layoutLines_span hmid hbefore hafter hfree, intercalate_around lineBreak before (List.cons_ne_nil _ []) after,
    List.intercalate_singleton]
  simp only [List.forall_mem_append] at hfree
  obtain ⟨hfreeBefore, hfreeMid, hfreeAfter⟩ := hfree
  have hstart := not_infix_lines_lineBreak listStart_mem_tags (by decide) hfreeBefore
  have hend : ¬ listStart <:+: after.flatMap (lineBreak ++ ·) :=
    not_infix_append_lines listStart_mem_tags (by decide) hfreeAfter isTagFree_nil
  rw [List.append_assoc, List.append_assoc, opened_append_listStart, opened_append listEnd_mem_tags (by decide),
    opened_flatMap_spanLine hfreeMid, opened_eq_zero hstart, opened_eq_zero hend]

theorem IsSpan.exists_around {p q : List (List Char)} {t : List Char} (h : IsSpan (p ++ t :: q))
    (ht : itemText? t = none) : (∃ l ∈ p, (itemText? l).isSome) ∧ ∃ l ∈ q, (itemText? l).isSome := by
  constructor
  · obtain ⟨first, hfirst, hitem⟩ := h.first
    cases p with
    | nil =>
      rw [List.nil_append, List.head?_cons, Option.mem_some_iff] at hfirst
      rw [← hfirst, ht] at hitem
      cases hitem
    | cons l p =>
      rw [List.cons_append, List.head?_cons, Option.mem_some_iff] at hfirst
      exact ⟨l, List.mem_cons_self, hfirst ▸ hitem⟩
  · obtain ⟨last, hlast, hitem⟩ := h.last
    rw [List.getLast?_append_of_ne_nil p (List.cons_ne_nil t q)] at hlast
    cases q with
    | nil =>
      rw [List.getLast?_singleton, Option.mem_some_iff] at hlast
      rw [← hlast, ht] at hitem
      cases hitem
    | cons l q =>
      rw [List.getLast?_cons_cons] at hlast
      exact ⟨last, List.mem_of_getLast? hlast, hitem⟩

theorem itemsTogether_of_isLaidOut {ls : List (List Char)} (hfree : ∀ l ∈ ls, IsTagFree l)
    (h : IsLaidOut (layoutLines ls) ls) : ItemsTogether ls := by
  by_cases hitem : ∃ l ∈ ls, (itemText? l).isSome
  · obtain ⟨before, mid, after, rfl, hmid, hbefore, hafter⟩ := exists_span hitem
    refine ⟨before, mid, after, rfl, hbefore, fun t ht => ?_, hafter⟩
    have hone := opened_layoutLines_span hmid hbefore hafter hfree
    have hcount := h.countP_le
    by_contra hnone
    obtain ⟨p, q, rfl⟩ := List.append_of_mem ht
    have htext : itemText? t = none := by simpa using hnone
    -- The first list line stands before the text, and the last one after it.
    obtain ⟨⟨first, hfirst, hfirstItem⟩, last, hlast, hlastItem⟩ := hmid.exists_around htext
    have hp := exists_isList_grouped ⟨first, List.mem_append_right before hfirst, hfirstItem⟩
    have hq := exists_isList_grouped ⟨last, List.mem_append_left after hlast, hlastItem⟩
    have hsplit : before ++ (p ++ t :: q ++ after) = before ++ p ++ t :: (q ++ after) := by
      simp only [List.append_assoc, List.cons_append]
    rw [hone, hsplit, grouped_append_cons _ htext, List.countP_append, List.countP_cons] at hcount
    omega
  · exact ⟨ls, [], [], by simp, by simpa using hitem, by simp, by simp⟩

end ModuleDocs.Description

namespace ModuleDocs

open Text Description

/-- Every run of list lines is a list of its own exactly when there is no second run. -/
theorem description_listsApart_iff {s : Settings} (hrules : ∀ r ∈ s.replace, r.column ≠ .description) {d : String}
    (htags : ∀ line ∈ lines d.toList, IsTagFree line) :
    (∃ out, s.description d = .ok out ∧ IsLaidOut out.toList ((lines d.toList).map trim)) ↔
      (d = "" ∨ ∃ rules, s.filledRules = .ok rules) ∧ ItemsTogether ((lines d.toList).map trim) := by
  have hfree := isTagFree_trim htags
  constructor
  · rintro ⟨out, hout, hlaid⟩
    obtain ⟨rfl, hfilled⟩ := (s.description_eq_ok hrules).mp hout
    rw [String.toList_ofList, layout_eq_layoutLines] at hlaid
    exact ⟨hfilled, itemsTogether_of_isLaidOut hfree hlaid⟩
  · rintro ⟨hfilled, htogether⟩
    refine ⟨_, (s.description_eq_ok hrules).mpr ⟨rfl, hfilled⟩, ?_⟩
    rw [String.toList_ofList, layout_eq_layoutLines]
    exact isLaidOut_of_itemsTogether htogether hfree

def oneList : String := "Modes:\n\n - a\n  - b\nNo others."

theorem description_listsApart_oneList :
    (∀ r ∈ (withTypeRule "a").replace, r.column ≠ .description) ∧ (∀ line ∈ lines oneList.toList, IsTagFree line) ∧
      ∃ out, (withTypeRule "a").description oneList = .ok out ∧
        IsLaidOut out.toList ((lines oneList.toList).map trim) := by
  have hrules : ∀ r ∈ (withTypeRule "a").replace, r.column ≠ .description := by decide
  have htags : ∀ line ∈ lines oneList.toList, IsTagFree line := by decide +kernel
  have htogether : ItemsTogether ((lines oneList.toList).map trim) :=
    ⟨["Modes:".toList, []], ["- a".toList, "- b".toList], ["No others.".toList], by decide +kernel, by decide,
      by decide, by decide⟩
  exact ⟨hrules, htags,
    (description_listsApart_iff hrules htags).mpr ⟨.inr ⟨[⟨"a", "", [], .type⟩], rfl⟩, htogether⟩⟩

/-- Two lists become one, with the text between them inside. -/
theorem description_listsJoined :
    (∀ r ∈ (withTypeRule "a").replace, r.column ≠ .description) ∧
      (∀ line ∈ lines "- a\ntext\n- b".toList, IsTagFree line) ∧
      (withTypeRule "a").description "- a\ntext\n- b" = .ok "<ul><li>a</li>text<br/><li>b</li></ul>" ∧
      ¬ IsLaidOut "<ul><li>a</li>text<br/><li>b</li></ul>".toList ((lines "- a\ntext\n- b".toList).map trim) := by
  refine ⟨by decide, by decide +kernel, by decide +kernel, fun h => ?_⟩
  have htwo : (grouped ((lines "- a\ntext\n- b".toList).map trim)).countP Piece.isList = 2 := by decide +kernel
  have hone : opened "<ul><li>a</li>text<br/><li>b</li></ul>".toList = 1 := by decide +kernel
  have hle := h.countP_le
  omega

end ModuleDocs
