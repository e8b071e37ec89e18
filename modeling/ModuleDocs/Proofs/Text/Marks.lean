import Mathlib.Data.List.Infix
import ModuleDocs.Proofs.Text.Split

/-! # Texts with marks

A mark is a piece of text that stands for itself, as a tag does. Where no end of a mark is the start of one, marks never
overlap (`AreMarks`), and a text can be read from any place: with a mark in it, it is read as what stands before the
mark, the mark, and what stands after it (`scan_append`). Cutting a text at a separator and replacing a piece of it are
described by the same reading. -/
set_option autoImplicit false

namespace ModuleDocs.Text

/-! ## Marks that do not overlap -/

/-- Pieces of text of which none ends where another one has begun, and none starts with another one. -/
structure AreMarks (marks : List (List Char)) : Prop where
  nonempty : [] ∉ marks
  apart : ∀ m ∈ marks, ∀ m' ∈ marks, ∀ d < m.length, m.drop d <+: m' ∨ m' <+: m.drop d → d = 0 ∧ m = m'

/-- What a text is made of. -/
inductive Token where
  | char (c : Char)
  | mark (m : List Char)
deriving DecidableEq

def Token.written : Token → List Char
  | .char c => [c]
  | .mark m => m

/-- Reads a text after leaving out `skip` characters of it, which belong to a mark. -/
def scanSkipping (marks : List (List Char)) : Nat → List Char → List Token
  | _, [] => []
  | skip + 1, _ :: rest => scanSkipping marks skip rest
  | 0, c :: rest =>
    match marks.find? (·.isPrefixOf (c :: rest)) with
    | some m => .mark m :: scanSkipping marks (m.length - 1) rest
    | none => .char c :: scanSkipping marks 0 rest

/-- The marks in a text, with the characters between them. -/
def scan (marks : List (List Char)) (cs : List Char) : List Token := scanSkipping marks 0 cs

section Marks
variable {marks : List (List Char)} {m m' : List Char}

theorem scan_cons {c : Char} {cs : List Char} (h : ∀ m ∈ marks, ¬ m <+: c :: cs) :
    scan marks (c :: cs) = .char c :: scan marks cs := by
  have hnone : marks.find? (·.isPrefixOf (c :: cs)) = none := by
    simpa [List.find?_eq_none, List.isPrefixOf_iff_prefix] using h
  rw [scan, scanSkipping, hnone, scan]

theorem scanSkipping_append (front cs : List Char) : scanSkipping marks front.length (front ++ cs) = scan marks cs := by
  induction front with
  | nil => rfl
  | cons c front ih => exact ih

variable (hmarks : AreMarks marks)
include hmarks

theorem AreMarks.ne_nil (hm : m ∈ marks) : m ≠ [] := fun e => hmarks.nonempty (e ▸ hm)

theorem AreMarks.eq_of_starts (hm : m ∈ marks) (hm' : m' ∈ marks) {cs : List Char} (h : m' <+: m ++ cs) : m' = m := by
  have hlength : 0 < m.length := List.length_pos_iff.mpr (hmarks.ne_nil hm)
  have hor := List.prefix_or_prefix_of_prefix (List.prefix_append m cs) h
  exact (hmarks.apart m hm m' hm' 0 hlength hor).2.symm

theorem AreMarks.prefix_left (hm : m ∈ marks) (hm' : m' ∈ marks) {a b : List Char} (ha : a ≠ [])
    (h : m' <+: a ++ (m ++ b)) : m' <+: a := by
  obtain hle | hle := List.prefix_or_prefix_of_prefix h (List.prefix_append a (m ++ b))
  · exact hle
  · obtain ⟨q, rfl⟩ := hle
    by_cases hq : q = []
    · rw [hq, List.append_nil]
    · have hrest : q <+: m ++ b := (List.prefix_append_right_inj a).mp h
      have hlt : a.length < (a ++ q).length := by
        rw [List.length_append]
        exact Nat.lt_add_of_pos_right (List.length_pos_iff.mpr hq)
      have hor := List.prefix_or_prefix_of_prefix hrest (List.prefix_append m b)
      have hzero := (hmarks.apart _ hm' m hm a.length hlt (by rwa [List.drop_left])).1
      exact absurd (List.length_eq_zero_iff.mp hzero) ha

/-- Texts are built of marks, and of characters at which no mark starts. -/
theorem AreMarks.induction {P : List Char → Prop} (nil : P []) (mark : ∀ m ∈ marks, ∀ cs, P cs → P (m ++ cs))
    (char : ∀ c cs, (∀ m ∈ marks, ¬ m <+: c :: cs) → P cs → P (c :: cs)) (cs : List Char) : P cs := by
  generalize hn : cs.length = n
  induction n using Nat.strongRecOn generalizing cs with
  | ind n ih =>
    cases cs with
    | nil => exact nil
    | cons c cs =>
      by_cases hmark : ∃ m ∈ marks, m <+: c :: cs
      · obtain ⟨m, hm, rest, hrest⟩ := hmark
        have hpos : 0 < m.length := List.length_pos_iff.mpr (hmarks.ne_nil hm)
        have hlength := congrArg List.length hrest
        rw [List.length_append] at hlength
        rw [← hrest]
        exact mark m hm rest (ih rest.length (by omega) rest rfl)
      · push Not at hmark
        exact char c cs hmark (ih cs.length (by rw [← hn, List.length_cons]; omega) cs rfl)

theorem scan_mark_append (hm : m ∈ marks) (cs : List Char) : scan marks (m ++ cs) = .mark m :: scan marks cs := by
  obtain ⟨c, rest, rfl⟩ := List.exists_cons_of_ne_nil (hmarks.ne_nil hm)
  have hfind : marks.find? (·.isPrefixOf (c :: (rest ++ cs))) = some (c :: rest) := by
    have hsome : (marks.find? (·.isPrefixOf (c :: (rest ++ cs)))).isSome = true := by
      rw [List.find?_isSome]
      exact ⟨c :: rest, hm, List.isPrefixOf_iff_prefix.mpr (List.prefix_append (c :: rest) cs)⟩
    obtain ⟨found, hfound⟩ := Option.isSome_iff_exists.mp hsome
    have hstart : found.isPrefixOf (c :: (rest ++ cs)) = true := by simpa using List.find?_some hfound
    rw [hfound, hmarks.eq_of_starts hm (List.mem_of_find?_eq_some hfound) (List.isPrefixOf_iff_prefix.mp hstart)]
  rw [scan, List.cons_append, scanSkipping, hfind]
  dsimp only
  rw [List.length_cons, Nat.add_sub_cancel, scanSkipping_append]

theorem flatMap_written_scan (cs : List Char) : (scan marks cs).flatMap Token.written = cs := by
  induction cs using hmarks.induction with
  | nil => rfl
  | mark m hm cs ih =>
    rw [scan_mark_append hmarks hm, List.flatMap_cons, ih]
    rfl
  | char c cs h ih =>
    rw [scan_cons h, List.flatMap_cons, ih]
    rfl

/-- A text with a mark in it is read as what stands before the mark, the mark, and what stands after it. -/
theorem scan_append (hm : m ∈ marks) (a b : List Char) :
    scan marks (a ++ (m ++ b)) = scan marks a ++ .mark m :: scan marks b := by
  induction a using hmarks.induction with
  | nil => exact scan_mark_append hmarks hm b
  | mark m' hm' a ih =>
    rw [List.append_assoc, scan_mark_append hmarks hm', ih, scan_mark_append hmarks hm', List.cons_append]
  | char c a h ih =>
    have hnone : ∀ m' ∈ marks, ¬ m' <+: c :: (a ++ (m ++ b)) := fun m' hm' hstart =>
      h m' hm' (hmarks.prefix_left hm hm' (List.cons_ne_nil c a) hstart)
    rw [List.cons_append, scan_cons hnone, ih, scan_cons h, List.cons_append]

theorem mark_mem_scan (hm : m ∈ marks) {cs : List Char} : .mark m ∈ scan marks cs ↔ m <:+: cs := by
  constructor
  · intro h
    obtain ⟨before, after, hsplit⟩ := List.append_of_mem h
    refine ⟨before.flatMap Token.written, after.flatMap Token.written, ?_⟩
    rw [← flatMap_written_scan hmarks cs, hsplit, List.flatMap_append, List.flatMap_cons, List.append_assoc]
    rfl
  · rintro ⟨before, after, rfl⟩
    rw [List.append_assoc, scan_append hmarks hm]
    exact List.mem_append_right _ List.mem_cons_self

/-- A mark occurs in a text with a mark in it before this one, as this one, or after it. -/
theorem infix_append_iff (hm : m ∈ marks) (hm' : m' ∈ marks) {a b : List Char} :
    m' <:+: a ++ (m ++ b) ↔ m' <:+: a ∨ m' = m ∨ m' <:+: b := by
  rw [← mark_mem_scan hmarks hm', scan_append hmarks hm, List.mem_append, List.mem_cons, mark_mem_scan hmarks hm',
    mark_mem_scan hmarks hm', Token.mark.injEq]

end Marks

theorem scan_eq_map {marks : List (List Char)} {cs : List Char} (h : ∀ m ∈ marks, ¬ m <:+: cs) :
    scan marks cs = cs.map .char := by
  induction cs with
  | nil => rfl
  | cons c cs ih =>
    rw [scan_cons fun m hm hstart => h m hm hstart.isInfix, ih fun m hm hin => h m hm (List.infix_cons hin),
      List.map_cons]

/-! ## Pieces between marks -/

def pieces : List Token → List (List Char)
  | [] => [[]]
  | .char c :: more => consFirst c (pieces more)
  | .mark _ :: more => [] :: pieces more

theorem consFirst_ne_nil (c : Char) (ps : List (List Char)) : consFirst c ps ≠ [] := by
  cases ps <;> exact List.cons_ne_nil _ _

theorem consFirst_append (c : Char) {ps : List (List Char)} (hps : ps ≠ []) (qs : List (List Char)) :
    consFirst c (ps ++ qs) = consFirst c ps ++ qs := by
  obtain ⟨p, ps, rfl⟩ := List.exists_cons_of_ne_nil hps
  rfl

theorem pieces_ne_nil (ts : List Token) : pieces ts ≠ [] := by
  cases ts with
  | nil => exact List.cons_ne_nil _ _
  | cons t ts =>
    cases t with
    | char c => exact consFirst_ne_nil c _
    | mark m => exact List.cons_ne_nil _ _

theorem pieces_append (ts : List Token) (m : List Char) (us : List Token) :
    pieces (ts ++ .mark m :: us) = pieces ts ++ pieces us := by
  induction ts with
  | nil => rfl
  | cons t ts ih =>
    cases t with
    | char c => rw [List.cons_append, pieces, ih, consFirst_append c (pieces_ne_nil ts), pieces]
    | mark m' => rw [List.cons_append, pieces, ih, pieces, List.cons_append]

theorem pieces_map_char (cs : List Char) : pieces (cs.map .char) = [cs] := by
  induction cs with
  | nil => rfl
  | cons c cs ih => rw [List.map_cons, pieces, ih, consFirst]

/-! ## One separator -/

theorem splitSkipping_eq_pieces (sep : List Char) (skip : Nat) (cs : List Char) :
    splitSkipping sep skip cs = pieces (scanSkipping [sep] skip cs) := by
  induction cs generalizing skip with
  | nil => cases skip <;> rfl
  | cons c cs ih =>
    cases skip with
    | succ skip => exact ih skip
    | zero =>
      rw [splitSkipping, scanSkipping, List.find?_singleton]
      split
      · next h => simp only [pieces, ih]
      · next h => simp only [pieces, ih]

theorem splitOn_eq_pieces (sep cs : List Char) : splitOn sep cs = pieces (scan [sep] cs) :=
  splitSkipping_eq_pieces sep 0 cs

theorem splitOn_of_absent {sep cs : List Char} (h : ¬ sep <:+: cs) : splitOn sep cs = [cs] := by
  rw [splitOn_eq_pieces, scan_eq_map (by simpa using h), pieces_map_char]

theorem splitOn_ne_nil (sep cs : List Char) : splitOn sep cs ≠ [] := by
  rw [splitOn_eq_pieces]
  exact pieces_ne_nil _

theorem splitOn_cons {sep : List Char} {c : Char} {cs : List Char} (h : ¬ sep <+: c :: cs) :
    splitOn sep (c :: cs) = consFirst c (splitOn sep cs) := by
  rw [splitOn_eq_pieces, scan_cons (by simpa using h), pieces, ← splitOn_eq_pieces]

theorem intercalate_consFirst (sep : List Char) (c : Char) {ps : List (List Char)} (hps : ps ≠ []) :
    sep.intercalate (consFirst c ps) = c :: sep.intercalate ps := by
  obtain ⟨p, ps, rfl⟩ := List.exists_cons_of_ne_nil hps
  cases ps with
  | nil => rw [consFirst, List.intercalate_singleton, List.intercalate_singleton]
  | cons q ps => rw [consFirst, List.intercalate_cons_cons, List.intercalate_cons_cons]; rfl

section Separator
variable {sep : List Char} (hsep : AreMarks [sep])
include hsep

theorem splitOn_append_sep (a b : List Char) : splitOn sep (a ++ (sep ++ b)) = splitOn sep a ++ splitOn sep b := by
  simp only [splitOn_eq_pieces, scan_append hsep (List.mem_singleton_self sep), pieces_append]

theorem splitOn_sep_append (cs : List Char) : splitOn sep (sep ++ cs) = [] :: splitOn sep cs :=
  splitOn_append_sep hsep [] cs

/-- The pieces of a text, joined by the separator, are the text again. -/
theorem joined_splitOn (cs : List Char) : sep.intercalate (splitOn sep cs) = cs := by
  induction cs using hsep.induction with
  | nil => exact List.intercalate_singleton
  | mark m hm cs ih =>
    obtain rfl := List.mem_singleton.mp hm
    rw [splitOn_sep_append hsep, List.intercalate_cons_of_ne_nil (splitOn_ne_nil m cs), ih, List.nil_append]
  | char c cs h ih =>
    rw [splitOn_cons (h sep (List.mem_singleton_self sep)), intercalate_consFirst sep c (splitOn_ne_nil sep cs), ih]

theorem splitOn_reverse (hback : AreMarks [sep.reverse]) (cs : List Char) :
    splitOn sep.reverse cs.reverse = ((splitOn sep cs).map List.reverse).reverse := by
  generalize hn : cs.length = n
  induction n using Nat.strongRecOn generalizing cs with
  | ind n ih =>
    by_cases h : sep <:+: cs
    · obtain ⟨a, b, hcs⟩ := h
      have hpos : 0 < sep.length := List.length_pos_iff.mpr (hsep.ne_nil (List.mem_singleton_self sep))
      have hlength := congrArg List.length hcs
      rw [List.length_append, List.length_append, hn] at hlength
      rw [List.append_assoc] at hcs
      rw [← hcs, List.reverse_append, List.reverse_append, List.append_assoc, splitOn_append_sep hback,
        splitOn_append_sep hsep, ih a.length (by omega) a rfl, ih b.length (by omega) b rfl, List.map_append,
        List.reverse_append]
    · have hrev : ¬ sep.reverse <:+: cs.reverse := fun hin => h (List.reverse_infix.mp hin)
      rw [splitOn_of_absent h, splitOn_of_absent hrev]
      rfl

end Separator

/-! ## Replacing a piece -/

section Replace
variable {old new : List Char}

theorem replaceAll_cons {c : Char} {cs : List Char} (h : ¬ old <+: c :: cs) :
    replaceAll old new (c :: cs) = c :: replaceAll old new cs := by
  rw [replaceAll, splitOn_cons h, intercalate_consFirst new c (splitOn_ne_nil old cs), replaceAll]

theorem replaceAll_append {a b : List Char} (h : ∀ d < a.length, ¬ old <+: a.drop d ++ b) :
    replaceAll old new (a ++ b) = a ++ replaceAll old new b := by
  induction a with
  | nil => rfl
  | cons c a ih =>
    have hfirst : ¬ old <+: c :: (a ++ b) := h 0 (Nat.succ_pos _)
    have hrest : ∀ d < a.length, ¬ old <+: a.drop d ++ b := fun d hd => h (d + 1) (Nat.succ_lt_succ hd)
    rw [List.cons_append, replaceAll_cons hfirst, ih hrest, List.cons_append]

theorem replaceAll_old_append (hold : AreMarks [old]) (cs : List Char) :
    replaceAll old new (old ++ cs) = new ++ replaceAll old new cs := by
  rw [replaceAll, splitOn_sep_append hold, List.intercalate_cons_of_ne_nil (splitOn_ne_nil old cs), List.nil_append,
    replaceAll]

theorem replaceAll_of_absent {cs : List Char} (h : ¬ old <:+: cs) : replaceAll old new cs = cs := by
  rw [replaceAll, splitOn_of_absent h, List.intercalate_singleton]

/-- A text may be replaced in two parts if no occurrence goes from one into the other. -/
theorem replaceAll_append_of_apart (hold : AreMarks [old]) {a b : List Char}
    (h : ∀ d, 0 < d → d < old.length → old.take d <:+ a → ¬ old.drop d <+: b) :
    replaceAll old new (a ++ b) = replaceAll old new a ++ replaceAll old new b := by
  induction a using hold.induction with
  | nil =>
    have hnil : ¬ old <:+: [] := fun hin => hold.nonempty (by simp [List.infix_nil.mp hin])
    rw [List.nil_append, replaceAll_of_absent hnil, List.nil_append]
  | mark m hm a ih =>
    obtain rfl := List.mem_singleton.mp hm
    have hrest := ih fun d hpos hlt hsuffix => h d hpos hlt (hsuffix.trans (List.suffix_append m a))
    rw [List.append_assoc, replaceAll_old_append hold, replaceAll_old_append hold, hrest, List.append_assoc]
  | char c a hno ih =>
    have hnone := hno old (List.mem_singleton_self old)
    have hstart : ¬ old <+: c :: (a ++ b) := by
      intro hstart
      obtain hle | ⟨q, hq⟩ := List.prefix_or_prefix_of_prefix hstart (List.prefix_append (c :: a) b)
      · exact hnone hle
      · by_cases hnil : q = []
        · rw [hnil, List.append_nil] at hq
          exact hnone (hq ▸ List.prefix_refl _)
        · have hlt : (c :: a).length < old.length := by
            rw [← hq, List.length_append]
            exact Nat.lt_add_of_pos_right (List.length_pos_iff.mpr hnil)
          refine h (c :: a).length (Nat.succ_pos _) hlt ?_ ?_
          · rw [← hq, List.take_left]
          · rw [← hq, ← List.cons_append, List.prefix_append_right_inj] at hstart
            rwa [← hq, List.drop_left]
    have hrest := ih fun d hpos hlt hsuffix => h d hpos hlt (hsuffix.trans (List.suffix_cons c a))
    rw [List.cons_append, replaceAll_cons hstart, replaceAll_cons hnone, hrest, List.cons_append]

end Replace

/-! ## Finding a piece -/

section Find
variable {piece : List Char}

theorem findFirst?_eq_none {cs : List Char} (h : ¬ piece <:+: cs) : findFirst? piece cs = none := by
  induction cs with
  | nil =>
    rw [findFirst?, if_neg fun hnil => h ?_]
    rw [List.isEmpty_iff.mp hnil]
  | cons c cs ih =>
    have hstart : ¬ piece.isPrefixOf (c :: cs) = true := fun hs => h (List.isPrefixOf_iff_prefix.mp hs).isInfix
    rw [findFirst?, if_neg hstart, ih fun hin => h (List.infix_cons hin), Option.map_none]

theorem findLast?_eq_none {cs : List Char} (h : ¬ piece <:+: cs) : findLast? piece cs = none := by
  induction cs with
  | nil =>
    rw [findLast?, if_neg fun hnil => h ?_]
    rw [List.isEmpty_iff.mp hnil]
  | cons c cs ih =>
    have hstart : ¬ piece.isPrefixOf (c :: cs) = true := fun hs => h (List.isPrefixOf_iff_prefix.mp hs).isInfix
    rw [findLast?, ih fun hin => h (List.infix_cons hin)]
    exact if_neg hstart

variable (hpiece : AreMarks [piece])
include hpiece

theorem findFirst?_append {a : List Char} (ha : ¬ piece <:+: a) (b : List Char) :
    findFirst? piece (a ++ (piece ++ b)) = some a.length := by
  have hmem := List.mem_singleton_self piece
  induction a with
  | nil =>
    obtain ⟨c, rest, rfl⟩ := List.exists_cons_of_ne_nil (hpiece.ne_nil hmem)
    rw [List.nil_append, List.cons_append, findFirst?]
    exact if_pos (List.isPrefixOf_iff_prefix.mpr (List.prefix_append (c :: rest) b))
  | cons c a ih =>
    have hstart : ¬ piece.isPrefixOf (c :: (a ++ (piece ++ b))) = true := fun hs =>
      ha (hpiece.prefix_left hmem hmem (List.cons_ne_nil c a) (List.isPrefixOf_iff_prefix.mp hs)).isInfix
    rw [List.cons_append, findFirst?, if_neg hstart, ih fun hin => ha (List.infix_cons hin), Option.map_some,
      List.length_cons]

theorem not_infix_tail {c : Char} {rest b : List Char} (hcons : piece = c :: rest) (hb : ¬ piece <:+: b) :
    ¬ piece <:+: rest ++ b := by
  have hmem := List.mem_singleton_self piece
  rintro ⟨x, y, hsplit⟩
  have hscan : scan [piece] (piece ++ b) = scan [piece] (c :: x) ++ .mark piece :: scan [piece] y := by
    rw [← scan_append hpiece hmem, List.cons_append, ← List.append_assoc, hsplit, hcons, List.cons_append]
  rw [scan_mark_append hpiece hmem] at hscan
  cases hfront : scan [piece] (c :: x) with
  | nil =>
    have hwritten := flatMap_written_scan hpiece (c :: x)
    rw [hfront] at hwritten
    cases hwritten
  | cons t ts =>
    rw [hfront, List.cons_append] at hscan
    refine hb ((mark_mem_scan hpiece hmem).mp ?_)
    rw [(List.cons.inj hscan).2]
    exact List.mem_append_right _ List.mem_cons_self

theorem findLast?_append (a : List Char) {b : List Char} (hb : ¬ piece <:+: b) :
    findLast? piece (a ++ (piece ++ b)) = some a.length := by
  induction a with
  | nil =>
    obtain ⟨c, rest, hcons⟩ := List.exists_cons_of_ne_nil (hpiece.ne_nil (List.mem_singleton_self piece))
    have hnone := findLast?_eq_none (not_infix_tail hpiece hcons hb)
    have hstart : piece.isPrefixOf (c :: (rest ++ b)) = true := by
      rw [List.isPrefixOf_iff_prefix, hcons]
      exact List.prefix_append (c :: rest) b
    have hwhole : [] ++ (piece ++ b) = c :: (rest ++ b) := by rw [List.nil_append, hcons, List.cons_append]
    rw [hwhole, findLast?, hnone]
    exact if_pos hstart
  | cons c a ih => rw [List.cons_append, findLast?, ih, List.length_cons]

/-- Where a piece occurs, it occurs a first time. -/
theorem exists_first {cs : List Char} (h : piece <:+: cs) : ∃ a b, cs = a ++ (piece ++ b) ∧ ¬ piece <:+: a := by
  have hmem := List.mem_singleton_self piece
  have hnil : ¬ piece <:+: [] := fun hin => hpiece.ne_nil hmem (List.infix_nil.mp hin)
  induction cs using hpiece.induction with
  | nil => exact absurd h hnil
  | mark m hm cs =>
    obtain rfl := List.mem_singleton.mp hm
    exact ⟨[], cs, rfl, hnil⟩
  | char c cs hno ih =>
    have hstart := hno piece hmem
    obtain ⟨a, b, rfl, ha⟩ := ih ((List.infix_cons_iff.mp h).resolve_left hstart)
    refine ⟨c :: a, b, rfl, fun hin => ?_⟩
    obtain hin | hin := List.infix_cons_iff.mp hin
    · exact hstart (hin.trans (List.prefix_append (c :: a) (piece ++ b)))
    · exact ha hin

end Find

/-- Where a piece occurs, it occurs a last time. -/
theorem exists_last {piece cs : List Char} (hne : piece ≠ []) (h : piece <:+: cs) :
    ∃ a b, cs = a ++ (piece ++ b) ∧ ¬ piece <:+: b := by
  induction cs with
  | nil => exact absurd (List.infix_nil.mp h) hne
  | cons c cs ih =>
    by_cases hin : piece <:+: cs
    · obtain ⟨a, b, rfl, hb⟩ := ih hin
      exact ⟨c :: a, b, rfl, hb⟩
    · obtain ⟨b, hb⟩ := (List.infix_cons_iff.mp h).resolve_right hin
      refine ⟨[], b, hb.symm, fun hlater => hin (hlater.trans ?_)⟩
      obtain ⟨d, rest, rfl⟩ := List.exists_cons_of_ne_nil hne
      rw [← (List.cons.inj hb).2]
      exact (List.suffix_append rest b).isInfix

end ModuleDocs.Text
