import ModuleDocs.Hcl.Block
import ModuleDocs.Proofs.Success

/-! # Blocks at given lines

A block is looked for at a line: there must be such a line, it must pass the test for the start, and some line from it
on the test for the end. What is found is the shortest run of lines from there on that ends so
(`IsShortestFrom`); otherwise the failure says what is missing (`Misses`). So the blocks at some lines are found all or
none, one for each line and in their order (`findBlocks_shortest`). -/
set_option autoImplicit false

namespace ModuleDocs.Hcl

/-! ## The first line that passes a test -/

section Through
variable {stops : String → Bool}

theorem takeThrough_eq_some {ls block : List String} (h : takeThrough stops ls = some block) :
    ∃ body stop after, ls = body ++ stop :: after ∧ stops stop = true ∧ (∀ l ∈ body, stops l = false) ∧
      block = body ++ [stop] := by
  induction ls generalizing block with
  | nil => cases h
  | cons l ls ih =>
    rw [takeThrough] at h
    by_cases hl : stops l = true
    · rw [if_pos hl] at h
      cases h
      exact ⟨[], l, ls, rfl, hl, fun _ hm => absurd hm List.not_mem_nil, rfl⟩
    · rw [if_neg hl, Option.map_eq_some_iff] at h
      obtain ⟨block, hblock, rfl⟩ := h
      obtain ⟨body, stop, after, rfl, hstop, hbody, rfl⟩ := ih hblock
      exact ⟨l :: body, stop, after, rfl, hstop, List.forall_mem_cons.mpr ⟨by simpa using hl, hbody⟩, rfl⟩

theorem takeThrough_append {body : List String} (hbody : ∀ l ∈ body, stops l = false) {stop : String}
    (hstop : stops stop = true) (rest : List String) :
    takeThrough stops (body ++ stop :: rest) = some (body ++ [stop]) := by
  induction body with
  | nil => rw [List.nil_append, takeThrough, if_pos hstop, List.nil_append]
  | cons l body ih =>
    rw [List.forall_mem_cons] at hbody
    rw [List.cons_append, takeThrough, hbody.1, ih hbody.2]
    rfl

theorem takeThrough_eq_none {ls : List String} (h : takeThrough stops ls = none) : ∀ l ∈ ls, stops l = false := by
  induction ls with
  | nil => exact fun l hl => absurd hl List.not_mem_nil
  | cons l ls ih =>
    rw [takeThrough] at h
    by_cases hl : stops l = true
    · rw [if_pos hl] at h
      cases h
    · rw [if_neg hl, Option.map_eq_none_iff] at h
      exact List.forall_mem_cons.mpr ⟨by simpa using hl, ih h⟩

end Through

/-! ## Positions -/

theorem ofNat_succ_sub_one (n : Nat) : Int.ofNat (n + 1) - 1 = n := by
  simp only [Int.ofNat_eq_natCast]
  omega

theorem linesFrom_ofNat_succ {α : Type} (ls : List α) (n : Nat) : linesFrom ls (Int.ofNat (n + 1) - 1) = ls.drop n := by
  rw [ofNat_succ_sub_one, linesFrom, if_pos (Int.natCast_nonneg _), Int.toNat_natCast]

theorem lineAt?_ofNat_succ {α : Type} (ls : List α) (n : Nat) : lineAt? ls (Int.ofNat (n + 1) - 1) = ls[n]? := by
  rw [ofNat_succ_sub_one, lineAt?, if_pos (Int.natCast_nonneg _), Int.toNat_natCast]

theorem findBlock_of_length_le {ls : List String} {n : Nat} (h : ls.length ≤ n) (start stop : LineTest) :
    findBlock ls start stop (Int.ofNat (n + 1)) = .error (.invalidLine (Int.ofNat (n + 1)) ls) := by
  unfold findBlock
  rw [linesFrom_ofNat_succ, List.drop_eq_nil_of_le h]
  rfl

/-- At a line that is there, the test for the start comes first, and then the search for the end. -/
theorem findBlock_cut (before : List String) (line : String) (after : List String) (start stop : LineTest) :
    findBlock (before ++ line :: after) start stop (Int.ofNat (before.length + 1)) =
      start.test >>= fun starts =>
        if starts line then
          stop.test >>= fun stops =>
            match takeThrough stops (line :: after) with
            | some block => .ok (unlines block)
            | none => .error (.endMismatch stop.source ((line :: after).getLastD ""))
        else .error (.startMismatch start.source line (Int.ofNat (before.length + 1))) := by
  unfold findBlock
  rw [linesFrom_ofNat_succ, lineAt?_ofNat_succ, List.drop_left, List.getElem?_append_right (Nat.le_refl _),
    Nat.sub_self]
  refine congrArg (start.test >>= ·) (funext fun starts => ?_)
  cases starts line <;> rfl

/-! ## One block -/

/-- There is a block at a line: the line is there and passes the test for the start, and it or a later line passes the
test for the end. Lines are numbered from one. -/
structure HasBlock (starts stops : String → Bool) (ls : List String) (loc : Nat) : Prop where
  within : loc ≤ ls.length
  opened : ∃ line, ls[loc - 1]? = some line ∧ starts line = true
  closed : ∃ line ∈ ls.drop (loc - 1), stops line = true

instance (starts stops : String → Bool) (ls : List String) (loc : Nat) : Decidable (HasBlock starts stops ls loc) :=
  decidable_of_iff (loc ≤ ls.length ∧ ls[loc - 1]?.any starts = true ∧ (ls.drop (loc - 1)).any stops = true) <| by
    rw [Option.any_eq_true, List.any_eq_true]
    exact ⟨fun h => ⟨h.1, h.2.1, h.2.2⟩, fun h => ⟨h.within, h.opened, h.closed⟩⟩

/-- A block is made of the lines from one line to the first that passes a test, which may be the same line. -/
def IsShortestFrom (stops : String → Bool) (ls : List String) (loc : Nat) (block : String) : Prop :=
  ∃ before body last after, ls = before ++ (body ++ last :: after) ∧ loc = before.length + 1 ∧
    (∀ l ∈ body, stops l = false) ∧ stops last = true ∧ block = unlines (body ++ [last])

/-- What is reported about a line that there is no block at. -/
inductive Misses (start stop : LineTest) (starts stops : String → Bool) (ls : List String) (loc : Nat) : Error → Prop
  | pastEnd (hloc : ls.length < loc) : Misses start stop starts stops ls loc (.invalidLine loc ls)
  | notOpened {line : String} (hline : ls[loc - 1]? = some line) (hstarts : starts line = false) :
      Misses start stop starts stops ls loc (.startMismatch start.source line loc)
  | notClosed {line last : String} (hline : ls[loc - 1]? = some line) (hstarts : starts line = true)
      (hstops : ∀ l ∈ ls.drop (loc - 1), stops l = false) (hlast : ls.getLast? = some last) :
      Misses start stop starts stops ls loc (.endMismatch stop.source last)

section Block
variable {start stop : LineTest} {starts stops : String → Bool}

theorem Misses.not_hasBlock {ls : List String} {loc : Nat} {e : Error}
    (h : Misses start stop starts stops ls loc e) : ¬ HasBlock starts stops ls loc := by
  rintro ⟨hwithin, ⟨line, hline, hstarts⟩, l, hl, hstops⟩
  cases h with
  | pastEnd hloc => omega
  | notOpened hline' hstarts' =>
    cases hline.symm.trans hline'
    cases hstarts.symm.trans hstarts'
  | notClosed _ _ hnone _ => cases hstops.symm.trans (hnone l hl)

/-- At a line the block is found that is there, or it is reported what is missing. -/
theorem findBlock_cases (hstart : start.test = .ok starts) (hstop : stop.test = .ok stops) (ls : List String)
    {loc : Nat} (hloc : 0 < loc) :
    (HasBlock starts stops ls loc ∧
      ∃ block, findBlock ls start stop (Int.ofNat loc) = .ok block ∧ IsShortestFrom stops ls loc block) ∨
    ∃ e, findBlock ls start stop (Int.ofNat loc) = .error e ∧ Misses start stop starts stops ls loc e := by
  obtain ⟨n, rfl⟩ : ∃ n, loc = n + 1 := ⟨loc - 1, by omega⟩
  by_cases hn : n < ls.length
  · obtain ⟨before, line, after, rfl, rfl⟩ : ∃ before line after, ls = before ++ line :: after ∧ before.length = n :=
      ⟨ls.take n, ls[n], ls.drop (n + 1), by rw [List.getElem_cons_drop, List.take_append_drop],
        List.length_take_of_le (Nat.le_of_lt hn)⟩
    have hline : (before ++ line :: after)[before.length + 1 - 1]? = some line := by simp
    have htail : (before ++ line :: after).drop (before.length + 1 - 1) = line :: after := List.drop_left
    cases hstarts : starts line with
    | false => exact .inr ⟨_, by rw [findBlock_cut, hstart, ok_bind, hstarts]; rfl, .notOpened hline hstarts⟩
    | true =>
      rw [findBlock_cut, hstart, ok_bind, if_pos hstarts, hstop, ok_bind]
      cases hblock : takeThrough stops (line :: after) with
      | none =>
        have hnone := takeThrough_eq_none hblock
        rw [← htail] at hnone
        refine .inr ⟨_, rfl, .notClosed hline hstarts hnone ?_⟩
        rw [List.getLast?_append_cons, List.getLast?_cons, List.getLastD_cons, List.getLastD_eq_getLast?]
      | some block =>
        obtain ⟨body, last, rest, hcut, hlast, hbody, rfl⟩ := takeThrough_eq_some hblock
        refine .inl ⟨⟨hn, ⟨line, hline, hstarts⟩, last, ?_, hlast⟩, _, rfl, ?_⟩
        · rw [htail, hcut]
          exact List.mem_append_right body List.mem_cons_self
        · exact ⟨before, body, last, rest, by rw [hcut], rfl, hbody, hlast, rfl⟩
  · have hle : ls.length ≤ n := Nat.le_of_not_lt hn
    exact .inr ⟨_, findBlock_of_length_le hle start stop, .pastEnd (Nat.lt_succ_of_le hle)⟩

section Tests
variable (hstart : start.test = .ok starts) (hstop : stop.test = .ok stops) {ls : List String} {loc : Nat}
  (hloc : 0 < loc)
include hstart hstop hloc

theorem findBlock_isOk_iff :
    (∃ block, findBlock ls start stop (Int.ofNat loc) = .ok block) ↔ HasBlock starts stops ls loc := by
  rcases findBlock_cases hstart hstop ls hloc with ⟨hhas, block, hblock, -⟩ | ⟨e, herror, hmisses⟩
  · exact ⟨fun _ => hhas, fun _ => ⟨block, hblock⟩⟩
  · refine ⟨?_, fun hhas => absurd hhas hmisses.not_hasBlock⟩
    rintro ⟨block, hblock⟩
    cases herror.symm.trans hblock

theorem isShortestFrom_of_findBlock {block : String} (h : findBlock ls start stop (Int.ofNat loc) = .ok block) :
    IsShortestFrom stops ls loc block := by
  rcases findBlock_cases hstart hstop ls hloc with ⟨-, block', hblock, hshortest⟩ | ⟨e, herror, -⟩
  · cases h.symm.trans hblock
    exact hshortest
  · cases h.symm.trans herror

theorem misses_of_findBlock {e : Error} (h : findBlock ls start stop (Int.ofNat loc) = .error e) :
    Misses start stop starts stops ls loc e := by
  rcases findBlock_cases hstart hstop ls hloc with ⟨-, block, hblock, -⟩ | ⟨e', herror, hmisses⟩
  · cases h.symm.trans hblock
  · cases h.symm.trans herror
    exact hmisses

end Tests

end Block

/-! ## Many blocks -/

theorem findBlocks_eq_ok_iff {text : String} {locs : List Int} {start stop : LineTest} {blocks : List String} :
    findBlocks text locs start stop = .ok blocks ↔
      locs ≠ [] ∧ locs.mapM (findBlock (linesOf text) start stop) = .ok blocks := by
  cases locs with
  | nil =>
    constructor
    · intro h
      cases h
    · exact fun h => absurd rfl h.1
  | cons loc locs =>
    unfold findBlocks
    rw [bind_eq_ok]
    constructor
    · rintro ⟨found, hfound, h⟩
      split at h
      · cases h
      · cases h
        exact ⟨List.cons_ne_nil _ _, hfound⟩
    · rintro ⟨-, hfound⟩
      refine ⟨blocks, hfound, ?_⟩
      cases blocks with
      | nil => cases length_of_mapM hfound
      | cons => rfl

theorem findBlocks_eq_error {text : String} {locs : List Int} {start stop : LineTest} {e : Error}
    (h : findBlocks text locs start stop = .error e) :
    locs = [] ∧ e = .noBlocks start.source text ∨ locs.mapM (findBlock (linesOf text) start stop) = .error e := by
  cases hfound : locs.mapM (findBlock (linesOf text) start stop) with
  | error e' =>
    unfold findBlocks at h
    rw [hfound] at h
    cases h
    exact .inr rfl
  | ok blocks =>
    by_cases hlocs : locs = []
    · subst hlocs
      cases h
      exact .inl ⟨rfl, rfl⟩
    · cases h.symm.trans (findBlocks_eq_ok_iff.mpr ⟨hlocs, hfound⟩)

/-- Blocks are found at lines exactly if there are lines to look at and each has a block. Then there is one block for
each line, in their order, and it is the shortest from that line on. Otherwise it is reported that there are no blocks
to find, or what is missing at the first line that has none. -/
theorem findBlocks_shortest {start stop : LineTest} {starts stops : String → Bool} (hstart : start.test = .ok starts)
    (hstop : stop.test = .ok stops) (text : String) (locs : List Nat) (hlocs : ∀ loc ∈ locs, 0 < loc) :
    ((∃ blocks, findBlocks text (locs.map Int.ofNat) start stop = .ok blocks) ↔
      locs ≠ [] ∧ ∀ loc ∈ locs, HasBlock starts stops (linesOf text) loc) ∧
    (∀ blocks, findBlocks text (locs.map Int.ofNat) start stop = .ok blocks →
      List.Forall₂ (IsShortestFrom stops (linesOf text)) locs blocks) ∧
    (¬ (locs ≠ [] ∧ ∀ loc ∈ locs, HasBlock starts stops (linesOf text) loc) →
      ∃ e, findBlocks text (locs.map Int.ofNat) start stop = .error e ∧
        (locs = [] ∧ e = .noBlocks start.source text ∨
          ∃ before loc after, locs = before ++ loc :: after ∧
            (∀ l ∈ before, HasBlock starts stops (linesOf text) l) ∧
            Misses start stop starts stops (linesOf text) loc e)) := by
  have hfound : (∃ blocks, findBlocks text (locs.map Int.ofNat) start stop = .ok blocks) ↔
      locs ≠ [] ∧ ∀ loc ∈ locs, HasBlock starts stops (linesOf text) loc := by
    simp only [findBlocks_eq_ok_iff, exists_and_left, exists_mapM_eq_ok, List.forall_mem_map, ne_eq,
      List.map_eq_nil_iff]
    exact and_congr_right fun _ => forall₂_congr fun loc hloc => findBlock_isOk_iff hstart hstop (hlocs loc hloc)
  refine ⟨hfound, fun blocks h => ?_, fun hnot => ?_⟩
  · have hblocks := mapM_eq_ok.mp (findBlocks_eq_ok_iff.mp h).2
    rw [List.forall₂_map_left_iff, List.forall₂_iff_zip] at hblocks
    refine List.forall₂_iff_zip.mpr ⟨hblocks.1, fun {loc block} hmem => ?_⟩
    exact isShortestFrom_of_findBlock hstart hstop (hlocs loc (List.of_mem_zip hmem).1) (hblocks.2 hmem)
  · cases h : findBlocks text (locs.map Int.ofNat) start stop with
    | ok blocks => exact absurd (hfound.mp ⟨blocks, h⟩) hnot
    | error e =>
      refine ⟨e, rfl, ?_⟩
      rcases findBlocks_eq_error h with ⟨hnil, he⟩ | herror
      · exact .inl ⟨List.map_eq_nil_iff.mp hnil, he⟩
      · obtain ⟨before, loc, after, hcut, hbefore, hloc⟩ := exists_of_mapM_error herror
        obtain ⟨before, rest, rfl, rfl, hrest⟩ := List.map_eq_append_iff.mp hcut
        obtain ⟨loc, after, rfl, rfl, rfl⟩ := List.map_eq_cons_iff.mp hrest
        refine .inr ⟨before, loc, after, rfl, fun l hl => ?_, ?_⟩
        · have hpositive := hlocs l (List.mem_append_left _ hl)
          exact (findBlock_isOk_iff hstart hstop hpositive).mp (hbefore _ (List.mem_map_of_mem hl))
        · exact misses_of_findBlock hstart hstop (hlocs loc (List.mem_append_right _ List.mem_cons_self)) hloc

/-- The test whether a line starts with one of two characters. -/
def startsWithEither (c d : Char) (line : String) : Bool :=
  Pattern.leads { node := .alt (.char c) (.char d) } line.toList

/-- The blocks at three lines that are not in order: two of the blocks are the same, and the one at the first line has
no other line, since that line also passes the test for the end. At a line that passes no test there is none. -/
theorem findBlocks_shortest_repeated :
    (∃ blocks, findBlocks "b\nx\na\ny\nz" [3, 1, 3] (.ofPattern "a|b") (.ofPattern "b|z") = .ok blocks ∧
      List.Forall₂ (IsShortestFrom (startsWithEither 'b' 'z') (linesOf "b\nx\na\ny\nz")) [3, 1, 3] blocks) ∧
    ∃ e, findBlocks "b\nx\na\ny\nz" [3, 2, 9] (.ofPattern "a|b") (.ofPattern "b|z") = .error e ∧
      ∃ before loc after, [3, 2, 9] = before ++ loc :: after ∧
        Misses (.ofPattern "a|b") (.ofPattern "b|z") (startsWithEither 'a' 'b') (startsWithEither 'b' 'z')
          (linesOf "b\nx\na\ny\nz") loc e := by
  have hstart : (LineTest.ofPattern "a|b").test = .ok (startsWithEither 'a' 'b') := by
    have hread : Pattern.read "a|b" = .ok { node := .alt (.char 'a') (.char 'b') } := by decide +kernel
    rw [LineTest.ofPattern, hread]
    rfl
  have hstop : (LineTest.ofPattern "b|z").test = .ok (startsWithEither 'b' 'z') := by
    have hread : Pattern.read "b|z" = .ok { node := .alt (.char 'b') (.char 'z') } := by decide +kernel
    rw [LineTest.ofPattern, hread]
    rfl
  obtain ⟨hfound, hblocks, -⟩ := findBlocks_shortest hstart hstop "b\nx\na\ny\nz" [3, 1, 3] (by decide)
  obtain ⟨blocks, h⟩ := hfound.mpr (by decide +kernel)
  obtain ⟨-, -, hmissing⟩ := findBlocks_shortest hstart hstop "b\nx\na\ny\nz" [3, 2, 9] (by decide)
  obtain ⟨e, he, ⟨hnil, -⟩ | ⟨before, loc, after, hcut, -, hmisses⟩⟩ := hmissing (by decide +kernel)
  · cases hnil
  · exact ⟨⟨blocks, h, hblocks blocks h⟩, e, he, before, loc, after, hcut, hmisses⟩

end ModuleDocs.Hcl
