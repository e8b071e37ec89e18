import Mathlib.Data.Set.List
import ModuleDocs.Proofs.Numbering
import ModuleDocs.Proofs.PropertyValue
import ModuleDocs.Proofs.Text.Marks

/-! # Where a local is found

A local may be assigned in many places of many blocks of locals, and where a closing brace is missing a block goes on
through the next one. Of all these places the one with the fewest spaces before it counts, of several such places the
earliest, and of several blocks around it the first (`local_find_leastNested`). -/
set_option autoImplicit false

namespace ModuleDocs.Hcl

open ModuleDocs.Text

/-! ## The first least element -/

section FirstLeast
variable {α β : Type} {key : α → Nat}

theorem firstLeast?_eq_none {l : List α} : firstLeast? key l = none ↔ l = [] := by
  cases l with
  | nil => simp [firstLeast?]
  | cons a l =>
    rw [firstLeast?]
    split
    · simp
    · split <;> simp

/-- Before what is chosen everything is greater, and after it nothing is less. -/
theorem exists_of_firstLeast? {l : List α} {a : α} (h : firstLeast? key l = some a) :
    ∃ front rest, l = front ++ a :: rest ∧ (∀ b ∈ front, key a < key b) ∧ ∀ b ∈ rest, key a ≤ key b := by
  induction l generalizing a with
  | nil => cases h
  | cons b l ih =>
    rw [firstLeast?] at h
    split at h
    · next hnone =>
      cases h
      rw [firstLeast?_eq_none] at hnone
      exact ⟨[], l, rfl, by simp, by simp [hnone]⟩
    · next c hc =>
      obtain ⟨front, rest, rfl, hfront, hrest⟩ := ih hc
      split at h
      · next hle =>
        cases h
        refine ⟨[], front ++ c :: rest, rfl, by simp, List.forall_mem_append.mpr ⟨fun d hd => ?_, ?_⟩⟩
        · exact Nat.le_of_lt (Nat.lt_of_le_of_lt hle (hfront d hd))
        · exact List.forall_mem_cons.mpr ⟨hle, fun d hd => Nat.le_trans hle (hrest d hd)⟩
      · next hlt =>
        cases h
        exact ⟨b :: front, rest, rfl, List.forall_mem_cons.mpr ⟨Nat.lt_of_not_le hlt, hfront⟩, hrest⟩

theorem exists_of_firstLeast?_filterMap {f : β → Option α} {rank : β → Nat} {l : List β}
    (hl : l.Pairwise (rank · < rank ·)) {a : α} (h : firstLeast? key (l.filterMap f) = some a) :
    ∃ b ∈ l, f b = some a ∧ ∀ b' ∈ l, ∀ a' ∈ f b', key a < key a' ∨ key a = key a' ∧ rank b ≤ rank b' := by
  obtain ⟨front, rest, hsplit, hfront, hrest⟩ := exists_of_firstLeast? h
  obtain ⟨before, found, rfl, rfl, hfound⟩ := List.filterMap_eq_append_iff.mp hsplit
  obtain ⟨skipped, b, after, rfl, hskipped, hb, rfl⟩ := List.filterMap_eq_cons_iff.mp hfound
  have hafter := (List.pairwise_cons.mp (List.pairwise_append.mp (List.pairwise_append.mp hl).2.1).2.1).1
  refine ⟨b, by simp, hb, fun b' hb' a' ha' => ?_⟩
  simp only [List.mem_append, List.mem_cons] at hb'
  obtain hmem | hmem | rfl | hmem := hb'
  · exact .inl (hfront a' (List.mem_filterMap.mpr ⟨b', hmem, ha'⟩))
  · rw [hskipped b' hmem] at ha'
    cases ha'
  · rw [hb, Option.mem_some_iff] at ha'
    exact .inr ⟨by rw [ha'], Nat.le_refl _⟩
  · have hkey := hrest a' (List.mem_filterMap.mpr ⟨b', hmem, ha'⟩)
    have hrank := hafter b' hmem
    omega

end FirstLeast

/-! ## Blocks of locals -/

def localsLine : String := "locals \x7b"

/-- A block of locals in a file: from a line that opens one to the first closing brace alone on its line. -/
structure LocalsBlock (file : String) where
  before : List String
  body : List String
  after : List String
  split : linesOf file = before ++ localsLine :: (body ++ "\x7d" :: after)
  closed : "\x7d" ∉ body

namespace LocalsBlock
variable {file : String}

def loc (b : LocalsBlock file) : Nat := b.before.length + 1

def lines (b : LocalsBlock file) : List String := localsLine :: (b.body ++ ["\x7d"])

def text (b : LocalsBlock file) : String := unlines b.lines

/-- A line of the file is one of the block. -/
def Holds (b : LocalsBlock file) (n : Nat) : Prop := b.loc ≤ n ∧ n < b.loc + b.lines.length

theorem notMem_cons_body (b : LocalsBlock file) : "\x7d" ∉ localsLine :: b.body :=
  List.not_mem_cons_of_ne_of_not_mem (by decide) b.closed

theorem linesOf_eq (b : LocalsBlock file) : linesOf file = b.before ++ (localsLine :: b.body ++ "\x7d" :: b.after) :=
  b.split

theorem drop_linesOf (b : LocalsBlock file) :
    (linesOf file).drop (b.loc - 1) = localsLine :: b.body ++ "\x7d" :: b.after := by
  rw [b.linesOf_eq, loc, Nat.add_sub_cancel, List.drop_left]

end LocalsBlock

theorem append_cons_inj_of_notMem_left {x : String} {p p' q q' : List String} (hp : x ∉ p) (hp' : x ∉ p')
    (h : p ++ x :: q = p' ++ x :: q') : p = p' ∧ q = q' := by
  have hindex := congrArg (List.idxOf x) h
  rw [List.idxOf_append_of_notMem hp, List.idxOf_append_of_notMem hp', List.idxOf_cons_self, List.idxOf_cons_self]
    at hindex
  obtain ⟨rfl, hrest⟩ := List.append_inj h hindex
  exact ⟨rfl, (List.cons.inj hrest).2⟩

namespace LocalsBlock
variable {file : String}

theorem lines_eq_drop {b b' : LocalsBlock file} (hle : b.loc ≤ b'.loc) (hlt : b'.loc < b.loc + b.lines.length) :
    b'.lines = b.lines.drop (b'.loc - b.loc) := by
  have hlength : b'.loc - b.loc ≤ (localsLine :: b.body).length := by
    simp only [lines, List.length_cons, List.length_append, List.length_nil] at hlt ⊢
    omega
  have hsub : b'.loc - 1 = (b.loc - 1) + (b'.loc - b.loc) := by
    have : 0 < b.loc := Nat.succ_pos _
    omega
  have hdrop := b'.drop_linesOf
  rw [hsub, ← List.drop_drop, b.drop_linesOf, List.drop_append_of_le_length hlength] at hdrop
  have hnot : "\x7d" ∉ (localsLine :: b.body).drop (b'.loc - b.loc) := fun h =>
    b.notMem_cons_body (List.mem_of_mem_drop h)
  have hbody := (append_cons_inj_of_notMem_left hnot b'.notMem_cons_body hdrop).1
  rw [lines, ← List.cons_append, ← hbody, lines, ← List.cons_append, List.drop_append_of_le_length hlength]

theorem eq_of_loc {b b' : LocalsBlock file} (h : b.loc = b'.loc) : b = b' := by
  have hsplit := b.linesOf_eq.symm.trans b'.linesOf_eq
  obtain ⟨hbefore, hrest⟩ := List.append_inj hsplit (Nat.succ.inj h)
  obtain ⟨hbody, hafter⟩ := append_cons_inj_of_notMem_left b.notMem_cons_body b'.notMem_cons_body hrest
  cases b
  cases b'
  cases hbefore
  cases hbody
  cases hafter
  rfl

end LocalsBlock

theorem pairwise_numbered (test : List Char → Bool) (start : Nat) (ls : List (List Char)) :
    (numbered test start ls).Pairwise (· < ·) := by
  induction ls generalizing start with
  | nil => exact .nil
  | cons l ls ih =>
    rw [numbered_cons]
    split
    · refine List.pairwise_cons.mpr ⟨fun n hn => ?_, ih (start + 1)⟩
      obtain ⟨before, line, after, -, -, rfl⟩ := mem_numbered.mp hn
      omega
    · exact ih (start + 1)

section Find
variable {file : String} (hfile : HasOnlyLineFeeds file)
  (hclosed : ∀ before after, linesOf file = before ++ localsLine :: after → "\x7d" ∈ after)
include hfile

theorem mem_numberedLines_localsLine {n : Nat} :
    n ∈ numberedLines (· = localsLine.toList) file ↔
      ∃ before after, linesOf file = before ++ localsLine :: after ∧ n = before.length + 1 := by
  have hlines : Text.lines file.toList = (linesOf file).map String.toList := by
    simp [linesOf, Function.comp_def]
  rw [numberedLines_eq (by decide) hfile, hlines, mem_numbered_toList]

include hclosed

/-- All blocks of locals are found, in the order of their lines. -/
theorem exists_localsBlocks :
    ∃ blocks : List (LocalsBlock file), (∀ b, b ∈ blocks) ∧ blocks.Pairwise (·.loc < ·.loc) ∧
      (blocks ≠ [] → localsOpening.find file = .ok (blocks.map fun b => (b.loc, b.text))) ∧
      (blocks = [] → localsOpening.find file = .error (.declarationMissing localsOpening.source)) := by
  have hnumber : ∀ n ∈ numberedLines (· = localsLine.toList) file, ∃ b : LocalsBlock file, b.loc = n := by
    intro n hn
    obtain ⟨before, after, hsplit, rfl⟩ := (mem_numberedLines_localsLine hfile).mp hn
    obtain ⟨body, rest, rfl, hbody⟩ := List.eq_append_cons_of_mem (hclosed before after hsplit)
    exact ⟨⟨before, body, rest, hsplit, hbody⟩, rfl⟩
  obtain ⟨blocks, hblocks⟩ : numberedLines (· = localsLine.toList) file ∈ Set.range (List.map LocalsBlock.loc) := by
    rw [Set.range_list_map]
    exact hnumber
  have hlines : localsOpening.lines = .ok (numberedLines (· = localsLine.toList)) := rfl
  have hfind : ∀ b : LocalsBlock file, findBlock (linesOf file) ⟨localsOpening.source, localsOpening.opens⟩
      .closingBrace (Int.ofNat b.loc) = .ok b.text := fun b => by
    rw [b.split]
    exact findBlock_append rfl (by decide) (by decide) b.closed b.before b.after
  refine ⟨blocks, fun b => ?_, ?_, fun hne => ?_, fun hnil => ?_⟩
  · have hmem : b.loc ∈ blocks.map LocalsBlock.loc := by
      rw [hblocks]
      exact (mem_numberedLines_localsLine hfile).mpr ⟨b.before, _, b.split, rfl⟩
    obtain ⟨b', hb', hloc⟩ := List.mem_map.mp hmem
    exact LocalsBlock.eq_of_loc hloc ▸ hb'
  · have hsorted := pairwise_numbered (· = localsLine.toList) 1 (Text.lines file.toList)
    rw [← numberedLines_eq (by decide) hfile, ← hblocks, List.pairwise_map] at hsorted
    exact hsorted
  · refine (Opening.find_eq_ok_iff hlines).mpr ⟨?_, ?_, ?_⟩
    · rw [← hblocks]
      simpa using hne
    · rw [← hblocks, List.map_map]
      rfl
    · intro e he
      obtain ⟨b, -, rfl⟩ := List.mem_map.mp he
      exact hfind b
  · rw [Opening.find, hlines, ok_bind, ← hblocks, hnil]
    rfl

end Find

/-! ## Lines that assign a local -/

/-- The first of some lines assigns a name, after some spaces. The equals sign may stand on a later line. -/
def AssignedFirst (name : String) (ls : List String) (spaces : Nat) : Prop :=
  ∃ gap value, (unlines ls).toList = List.replicate spaces ' ' ++ name.toList ++ gap ++ '=' :: value ∧
    ∀ c ∈ gap, isBlank c = true

theorem AssignedFirst.ne_nil {name : String} {ls : List String} {spaces : Nat} (h : AssignedFirst name ls spaces) :
    ls ≠ [] := by
  rintro rfl
  obtain ⟨gap, value, htext, -⟩ := h
  have hsign : '=' ∈ (unlines []).toList := by
    rw [htext]
    simp
  exact absurd hsign (by decide)

theorem areMarks_feed : AreMarks [['\n']] := ⟨by decide, by decide⟩

theorem joinLines_drop_count {ls : List (List Char)} (hne : ls ≠ []) (hls : ∀ l ∈ ls, '\n' ∉ l)
    {before rest : List Char} (h : joinLines ls = before ++ rest) (hstart : ∀ c ∈ before.getLast?, c = '\n') :
    joinLines (ls.drop (before.count '\n')) = rest := by
  have hsplit : splitOn ['\n'] (joinLines ls) = ls := splitOn_intercalate hne hls
  obtain rfl | ⟨front, c, rfl⟩ := List.eq_nil_or_concat' before
  · exact h
  · obtain rfl : c = '\n' := hstart c (by simp)
    rw [h, List.append_assoc, splitOn_append_sep areMarks_feed] at hsplit
    have hcount : (front ++ ['\n']).count '\n' = (splitOn ['\n'] front).length := by
      rw [length_splitOn, List.count_append, List.count_singleton_self]
    rw [← hsplit, hcount, List.drop_left]
    exact (intercalate_splitOn rest).2

theorem count_flatMap_feed {ls : List (List Char)} (hls : ∀ l ∈ ls, '\n' ∉ l) :
    (ls.flatMap (· ++ ['\n'])).count '\n' = ls.length := by
  induction ls with
  | nil => rfl
  | cons l ls ih =>
    rw [List.forall_mem_cons] at hls
    rw [List.flatMap_cons, List.count_append, List.count_append, List.count_eq_zero_of_not_mem hls.1, ih hls.2,
      List.count_singleton_self, List.length_cons, Nat.zero_add, Nat.add_comm]

theorem getLast?_flatMap_feed (ls : List (List Char)) : ∀ c ∈ (ls.flatMap (· ++ ['\n'])).getLast?, c = '\n' := by
  obtain rfl | ⟨front, l, rfl⟩ := List.eq_nil_or_concat' ls
  · simp
  · simp

section Lines
variable {name : String} {ls : List String} (hls : ∀ l ∈ ls, '\n' ∉ l.toList)
include hls

theorem AssignedAt.assignedFirst (hne : ls ≠ []) (m : AssignedAt name.toList (unlines ls).toList) :
    AssignedFirst name (ls.drop (m.before.count '\n')) m.spaces := by
  have hsplit : joinLines (ls.map String.toList) = m.before ++ _ := String.toList_ofList.symm.trans m.split
  refine ⟨m.gap, m.value, ?_, m.blank⟩
  rw [unlines, String.toList_ofList, List.map_drop]
  exact joinLines_drop_count (by simpa using hne) (by simpa using hls) hsplit m.lineStart

theorem AssignedFirst.exists_assignedAt {k spaces : Nat} (h : AssignedFirst name (ls.drop k) spaces) :
    ∃ m : AssignedAt name.toList (unlines ls).toList, m.before.count '\n' = k ∧ m.spaces = spaces := by
  have hk : k < ls.length := by simpa using h.ne_nil
  have hdrop : (ls.drop k).map String.toList ≠ [] := by simpa using h.ne_nil
  obtain ⟨gap, value, htext, hgap⟩ := h
  have hjoin := intercalate_around ['\n'] ((ls.take k).map String.toList) hdrop []
  rw [List.append_nil, List.flatMap_nil, List.append_nil, ← List.map_append, List.take_append_drop] at hjoin
  refine ⟨⟨((ls.take k).map String.toList).flatMap (· ++ ['\n']), spaces, gap, value, ?_, getLast?_flatMap_feed _,
    hgap⟩, ?_, rfl⟩
  · rw [← htext, unlines, unlines, String.toList_ofList, String.toList_ofList]
    exact hjoin
  · rw [count_flatMap_feed, List.length_map, List.length_take, Nat.min_eq_left (Nat.le_of_lt hk)]
    intro l hl
    obtain ⟨line, hline, rfl⟩ := List.mem_map.mp hl
    exact hls line (List.mem_of_mem_take hline)

end Lines

/-! ## Places in blocks -/

namespace LocalsBlock
variable {file : String} (b : LocalsBlock file) (name : String)

/-- A line of the block, counted from its opening line, assigns a name after some spaces. -/
def Assigns (offset spaces : Nat) : Prop := AssignedFirst name (b.lines.drop offset) spaces

def place? : Option LocalPlace :=
  (leastIndented? (assignmentsFrom name.toList true 0 b.text.toList)).map fun a =>
    ⟨b.loc + (b.text.toList.take a.offset).count '\n', b.text, a.indent⟩

variable {b name}

theorem localPlace?_eq (hname : isPlainName name.toList = true) :
    localPlace? name (b.loc, b.text) = .ok (b.place? name) := by
  rw [localPlace?, assignments, if_pos hname, ok_bind, place?]
  cases leastIndented? (assignmentsFrom name.toList true 0 b.text.toList) <;> rfl

theorem newline_notMem_lines (b : LocalsBlock file) : ∀ l ∈ b.lines, '\n' ∉ l.toList := by
  intro l hl hmem
  have hline : l ∈ linesOf file := by
    rw [b.linesOf_eq]
    simp only [lines, List.mem_cons, List.mem_append, List.not_mem_nil, or_false] at hl ⊢
    tauto
  exact absurd (isLine_of_mem_linesOf hline '\n' hmem) (by decide)

theorem Assigns.lt_length {offset spaces : Nat} (h : b.Assigns name offset spaces) : offset < b.lines.length := by
  simpa using AssignedFirst.ne_nil h

theorem Assigns.exists_assignedAt {offset spaces : Nat} (h : b.Assigns name offset spaces) :
    ∃ m : AssignedAt name.toList b.text.toList, m.before.count '\n' = offset ∧ m.spaces = spaces :=
  AssignedFirst.exists_assignedAt b.newline_notMem_lines h

/-- What is assigned in a block that starts in another one is assigned there too. -/
theorem Assigns.of_inner {b b' : LocalsBlock file} (hle : b.loc ≤ b'.loc) (hlt : b'.loc < b.loc + b.lines.length)
    {offset spaces : Nat} (h : b'.Assigns name offset spaces) : b.Assigns name (b'.loc - b.loc + offset) spaces := by
  rw [Assigns, lines_eq_drop hle hlt, List.drop_drop] at h
  exact h

variable (hname : isPlainName name.toList = true)
include hname

theorem not_assigns_of_place? (h : b.place? name = none) (offset spaces : Nat) : ¬ b.Assigns name offset spaces := by
  intro hassigns
  obtain ⟨m, -, -⟩ := hassigns.exists_assignedAt
  rw [place?, Option.map_eq_none_iff, leastIndented?, firstLeast?_eq_none] at h
  have hmem := m.mem hname
  rw [h] at hmem
  cases hmem

/-- The place in a block is the earliest with the fewest spaces. -/
theorem exists_of_place? {p : LocalPlace} (h : b.place? name = some p) :
    ∃ offset, b.Assigns name offset p.indent ∧ p.loc = b.loc + offset ∧ p.block = b.text ∧
      ∀ offset' spaces', b.Assigns name offset' spaces' →
        p.indent < spaces' ∨ p.indent = spaces' ∧ offset ≤ offset' := by
  obtain ⟨a, ha, rfl⟩ := Option.map_eq_some_iff.mp h
  rw [leastIndented?, ← List.filterMap_some (l := assignmentsFrom name.toList true 0 b.text.toList)] at ha
  obtain ⟨_, hmem, ⟨rfl⟩, hleast⟩ := exists_of_firstLeast?_filterMap (pairwise_assignmentsFrom _ _ true 0) ha
  obtain ⟨m, rfl⟩ := exists_assignedAt_of_mem hmem
  have htake : ∀ m : AssignedAt name.toList b.text.toList, b.text.toList.take m.before.length = m.before := fun m =>
    (congrArg _ m.eq_append).trans List.take_left
  refine ⟨m.before.count '\n', m.assignedFirst b.newline_notMem_lines (List.cons_ne_nil _ _), ?_, rfl, ?_⟩
  · rw [htake]
  · intro offset' spaces' hassigns
    obtain ⟨m', rfl, rfl⟩ := hassigns.exists_assignedAt
    refine (hleast _ (m'.mem hname) _ rfl).imp_right fun hle => ⟨hle.1, ?_⟩
    rw [← htake m, ← htake m']
    exact (List.take_sublist_take_left hle.2).count_le '\n'

end LocalsBlock

/-! ## The least nested place -/

/-- A place where a local is assigned: its block, the lines of the block before it, and the spaces before the name. -/
structure LocalAt (name file : String) where
  block : LocalsBlock file
  offset : Nat
  spaces : Nat
  assigned : block.Assigns name offset spaces

section Local
variable {file : String}

def LocalAt.line {name : String} (m : LocalAt name file) : Nat := m.block.loc + m.offset

/-- The place has the fewest spaces, and is the earliest of such places. -/
def LocalAt.IsLeastNested {name : String} (m : LocalAt name file) : Prop :=
  ∀ m' : LocalAt name file, m.spaces < m'.spaces ∨ m.spaces = m'.spaces ∧ m.line ≤ m'.line

variable {l : Local}

theorem Local.find_eq (hname : isPlainName l.name.toList = true) {blocks : List (LocalsBlock file)}
    (hblocks : localsOpening.find file = .ok (blocks.map fun b => (b.loc, b.text))) :
    l.find file = match firstLeast? LocalPlace.indent (blocks.filterMap fun b => b.place? l.name) with
      | none => .error (.localMissing l.name)
      | some p => .ok [(p.loc, p.block)] := by
  have hplaces : (blocks.map fun b => (b.loc, b.text)).mapM (localPlace? l.name) =
      .ok (blocks.map fun b => b.place? l.name) := by
    rw [mapM_eq_ok, List.forall₂_map_left_iff, List.forall₂_map_right_iff, List.forall₂_same]
    exact fun b _ => LocalsBlock.localPlace?_eq hname
  rw [Local.find, hblocks, ok_bind, hplaces, ok_bind, List.filterMap_map]
  rfl

/-- A place that is chosen from the blocks in their order is least nested, and no earlier block holds its line. -/
theorem exists_leastNested {name : String} (hname : isPlainName name.toList = true) {blocks : List (LocalsBlock file)}
    (hall : ∀ b, b ∈ blocks) (hsorted : blocks.Pairwise (·.loc < ·.loc)) {p : LocalPlace}
    (h : firstLeast? LocalPlace.indent (blocks.filterMap fun b => b.place? name) = some p) :
    ∃ m : LocalAt name file, (p.loc, p.block) = (m.line, m.block.text) ∧ m.IsLeastNested ∧
      ∀ b : LocalsBlock file, b.Holds m.line → m.block.loc ≤ b.loc := by
  obtain ⟨b, -, hplace, hfirst⟩ := exists_of_firstLeast?_filterMap hsorted h
  obtain ⟨offset, hassigns, hloc, hblock, hleast⟩ := LocalsBlock.exists_of_place? hname hplace
  -- An assignment in any block has as many spaces, and more of them in a block before.
  have hspaces : ∀ (b' : LocalsBlock file) (offset' spaces' : Nat), b'.Assigns name offset' spaces' →
      p.indent < spaces' ∨ p.indent = spaces' ∧ b.loc ≤ b'.loc := by
    intro b' offset' spaces' hassigns'
    cases hplace' : b'.place? name with
    | none => exact absurd hassigns' (LocalsBlock.not_assigns_of_place? hname hplace' offset' spaces')
    | some p' =>
      obtain ⟨_, _, _, _, hleast'⟩ := LocalsBlock.exists_of_place? hname hplace'
      have hp := hfirst b' (hall b') p' hplace'
      have hp' := hleast' offset' spaces' hassigns'
      omega
  refine ⟨⟨b, offset, p.indent, hassigns⟩, by rw [hloc, hblock]; rfl, fun m' => ?_, fun b' hholds => ?_⟩
  · refine (hspaces m'.block m'.offset m'.spaces m'.assigned).imp_right fun htie => ⟨htie.1, ?_⟩
    have hle := htie.2
    have hoffset := hassigns.lt_length
    by_cases hlt : m'.block.loc < b.loc + b.lines.length
    · have hinner := hleast _ _ (m'.assigned.of_inner hle hlt)
      simp only [LocalAt.line]
      omega
    · simp only [LocalAt.line]
      omega
  · by_contra hlt
    simp only [LocalAt.line, LocalsBlock.Holds] at hholds hlt
    have houter := hspaces b' _ _ (hassigns.of_inner (by omega) (by omega))
    omega

section Closed
variable (hname : isIdentifier l.name = true) (hfile : HasOnlyLineFeeds file)
  (hclosed : ∀ before after, linesOf file = before ++ localsLine :: after → "\x7d" ∈ after)
include hname hfile hclosed

theorem exists_find_of_localAt (m₀ : LocalAt l.name file) :
    ∃ m : LocalAt l.name file, l.find file = .ok [(m.line, m.block.text)] ∧ m.IsLeastNested ∧
      ∀ b : LocalsBlock file, b.Holds m.line → m.block.loc ≤ b.loc := by
  have hplain := isPlainName_of_isIdentifier hname
  obtain ⟨blocks, hall, hsorted, hfound, -⟩ := exists_localsBlocks hfile hclosed
  rw [Local.find_eq hplain (hfound (List.ne_nil_of_mem (hall m₀.block)))]
  cases hp : firstLeast? LocalPlace.indent (blocks.filterMap fun b => b.place? l.name) with
  | none =>
    rw [firstLeast?_eq_none, List.filterMap_eq_nil_iff] at hp
    have hnot := LocalsBlock.not_assigns_of_place? hplain (hp m₀.block (hall m₀.block))
    exact absurd m₀.assigned (hnot m₀.offset m₀.spaces)
  | some p =>
    obtain ⟨m, hm, hleast⟩ := exists_leastNested hplain hall hsorted hp
    refine ⟨m, ?_, hleast⟩
    dsimp only
    rw [hm]

theorem find_eq_error_of_isEmpty (hempty : IsEmpty (LocalAt l.name file)) : ∃ e, l.find file = .error e := by
  have hplain := isPlainName_of_isIdentifier hname
  obtain ⟨blocks, hall, hsorted, hfound, hnone⟩ := exists_localsBlocks hfile hclosed
  by_cases hblocks : blocks = []
  · refine ⟨.declarationMissing localsOpening.source, ?_⟩
    rw [Local.find, hnone hblocks]
    rfl
  · rw [Local.find_eq hplain (hfound hblocks)]
    cases hp : firstLeast? LocalPlace.indent (blocks.filterMap fun b => b.place? l.name) with
    | none => exact ⟨.localMissing l.name, rfl⟩
    | some p =>
      obtain ⟨m, -⟩ := exists_leastNested hplain hall hsorted hp
      exact hempty.elim m

/-- A local is found at its least nested place, or nowhere if it has none. -/
theorem local_find_leastNested :
    ((∃ e, l.find file = .error e) ↔ IsEmpty (LocalAt l.name file)) ∧
      (Nonempty (LocalAt l.name file) → ∃ m : LocalAt l.name file, l.find file = .ok [(m.line, m.block.text)] ∧
        m.IsLeastNested ∧ ∀ b : LocalsBlock file, b.Holds m.line → m.block.loc ≤ b.loc) := by
  refine ⟨⟨?_, find_eq_error_of_isEmpty hname hfile hclosed⟩, ?_⟩
  · rintro ⟨e, he⟩
    refine ⟨fun m₀ => ?_⟩
    obtain ⟨m, hm, -⟩ := exists_find_of_localAt hname hfile hclosed m₀
    rw [hm] at he
    cases he
  · rintro ⟨m₀⟩
    exact exists_find_of_localAt hname hfile hclosed m₀

end Closed

end Local

/-- A block that goes on through the next one, and a block after them. -/
def nestedBlocks : String :=
  "locals \x7b\n    a = 1\nlocals \x7b\n  a\n  = 2\n\x7d\n\nlocals \x7b\n  a = 3\n\x7d\n"

def localA : Local := { name := "a", fields := ⟨.null⟩ }

theorem local_find_leastNested_nestedBlocks :
    isIdentifier localA.name = true ∧ HasOnlyLineFeeds nestedBlocks ∧
      (∀ before after, linesOf nestedBlocks = before ++ localsLine :: after → "\x7d" ∈ after) ∧
      ∃ m : LocalAt localA.name nestedBlocks, localA.find nestedBlocks = .ok [(m.line, m.block.text)] ∧
        m.IsLeastNested ∧ ∀ b : LocalsBlock nestedBlocks, b.Holds m.line → m.block.loc ≤ b.loc := by
  have hname : isIdentifier localA.name = true := by decide
  have hfile : HasOnlyLineFeeds nestedBlocks := by decide +kernel
  have hclosed : ∀ before after, linesOf nestedBlocks = before ++ localsLine :: after → "\x7d" ∈ after :=
    forall_cuts (by decide +kernel)
  have hplace : Nonempty (LocalAt localA.name nestedBlocks) :=
    ⟨⟨[], ["    a = 1", localsLine, "  a", "  = 2"], ["", localsLine, "  a = 3", "\x7d"], by decide +kernel, by decide⟩,
      3, 2, "\n  ".toList, " 2\n\x7d".toList, by decide +kernel, List.all_eq_true.mp (by decide)⟩
  exact ⟨hname, hfile, hclosed, (local_find_leastNested hname hfile hclosed).2 hplace⟩

end ModuleDocs.Hcl
