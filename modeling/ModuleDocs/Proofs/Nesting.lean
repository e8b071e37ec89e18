import Mathlib.Data.List.Induction
import ModuleDocs.Hcl.Property

/-! # Nested brackets

Brackets are well nested if each closing one closes the last that is open, and none stays open (`WellNested`). A stack
of open brackets follows them (`openAfter`): it is empty in the end exactly for brackets that are well nested
(`wellNested_iff`), and it is as high as the brackets are deep (`depthOf_eq`). -/
set_option autoImplicit false

namespace ModuleDocs.Hcl

/-! ## Well nested brackets -/

inductive WellNested : List Char → Prop
  | nil : WellNested []
  | group {first last : Char} {inner after : List Char} (hpair : opening? last = some first)
      (hinner : WellNested inner) (hafter : WellNested after) : WellNested (first :: (inner ++ last :: after))

/-- How many brackets are opened beyond those that are closed. -/
def depthOf (bs : List Char) : Int := bs.countP isOpening - bs.countP isClosing

/-! ## Open brackets -/

/-- What a bracket does to the open ones, innermost first. -/
def bracketStep (stack : List Char) (c : Char) : Option (List Char) :=
  if isOpening c then some (c :: stack)
  else match stack with
    | [] => none
    | last :: outer => if opening? c = some last then some outer else none

/-- The brackets that are open after some others, if each of these closes the last one. -/
def openAfter (bs : List Char) : Option (List Char) := bs.foldlM bracketStep []

theorem openAfter_append (bs cs : List Char) : openAfter (bs ++ cs) = (openAfter bs).bind (cs.foldlM bracketStep) := by
  unfold openAfter
  rw [List.foldlM_append]
  rfl

theorem openAfter_concat (bs : List Char) (c : Char) :
    openAfter (bs ++ [c]) = (openAfter bs).bind (bracketStep · c) := by
  rw [openAfter_append]
  refine congrArg _ (funext fun stack => ?_)
  rw [List.foldlM_cons]
  simp

theorem isClosing_of_opening? {c first : Char} (h : opening? c = some first) : isClosing c = true := by
  rw [isClosing, h, Option.isSome_some]

theorem isOpening_of_opening? {c first : Char} (h : opening? c = some first) : isOpening first = true := by
  unfold opening? at h
  split at h <;> cases h <;> rfl

theorem isOpening_eq_false {c : Char} (h : isClosing c = true) : isOpening c = false := by
  unfold isClosing opening? at h
  split at h <;> first | rfl | cases h

theorem isClosing_eq_false {c : Char} (h : isOpening c = true) : isClosing c = false := by
  cases hc : isClosing c with
  | false => rfl
  | true => exact absurd h (by rw [isOpening_eq_false hc]; exact Bool.false_ne_true)

theorem bracketStep_of_isOpening {c : Char} (h : isOpening c = true) (stack : List Char) :
    bracketStep stack c = some (c :: stack) := by
  simp [bracketStep, h]

theorem bracketStep_of_isClosing {c : Char} (h : isClosing c = true) (last : Char) (outer : List Char) :
    bracketStep (last :: outer) c = if opening? c = some last then some outer else none := by
  simp [bracketStep, isOpening_eq_false h]

theorem bracketStep_nil_of_isClosing {c : Char} (h : isClosing c = true) : bracketStep [] c = none := by
  simp [bracketStep, isOpening_eq_false h]

/-! ## Stacks and nesting -/

theorem WellNested.foldlM_eq {bs : List Char} (h : WellNested bs) (stack : List Char) :
    bs.foldlM bracketStep stack = some stack := by
  induction h generalizing stack with
  | nil => rfl
  | @group first last inner after hpair _ _ ihinner ihafter =>
    rw [List.foldlM_cons, bracketStep_of_isOpening (isOpening_of_opening? hpair)]
    simp only [Option.bind_eq_bind, Option.bind_some]
    rw [List.foldlM_append, ihinner]
    simp only [Option.bind_eq_bind, Option.bind_some]
    rw [List.foldlM_cons, bracketStep_of_isClosing (isClosing_of_opening? hpair), if_pos hpair]
    exact ihafter stack

/-- Brackets that close all of a stack, with well nested ones between. -/
def ClosesAll : List Char → List Char → Prop
  | [], bs => WellNested bs
  | first :: outer, bs => ∃ inner last after, bs = inner ++ last :: after ∧ WellNested inner ∧
      opening? last = some first ∧ ClosesAll outer after

theorem closesAll_of_group {first last : Char} (hpair : opening? last = some first) {inner after : List Char}
    (hinner : WellNested inner) {stack : List Char} (hafter : ClosesAll stack after) :
    ClosesAll stack (first :: (inner ++ last :: after)) := by
  cases stack with
  | nil => exact .group hpair hinner hafter
  | cons outer stack =>
    obtain ⟨inner', last', after', rfl, hinner', hlast', hafter'⟩ := hafter
    exact ⟨first :: (inner ++ last :: inner'), last', after', by simp, .group hpair hinner hinner', hlast', hafter'⟩

theorem closesAll_of_foldlM {bs stack : List Char} (h : bs.foldlM bracketStep stack = some []) :
    ClosesAll stack bs := by
  induction bs generalizing stack with
  | nil =>
    cases h
    exact .nil
  | cons c bs ih =>
    rw [List.foldlM_cons, Option.bind_eq_bind, Option.bind_eq_some_iff] at h
    obtain ⟨next, hnext, h⟩ := h
    have hrest := ih h
    unfold bracketStep at hnext
    split at hnext
    · cases hnext
      obtain ⟨inner, last, after, rfl, hinner, hlast, hafter⟩ := hrest
      exact closesAll_of_group hlast hinner hafter
    · split at hnext
      · cases hnext
      · split at hnext
        · next hpair =>
          cases hnext
          exact ⟨[], c, bs, rfl, .nil, hpair, hrest⟩
        · cases hnext

/-- Brackets are well nested if the stack is empty after them. -/
theorem wellNested_iff {bs : List Char} : WellNested bs ↔ openAfter bs = some [] :=
  ⟨fun h => h.foldlM_eq [], fun h => closesAll_of_foldlM h⟩

instance : DecidablePred WellNested := fun _ => decidable_of_iff _ wellNested_iff.symm

theorem depthOf_concat (bs : List Char) (c : Char) :
    depthOf (bs ++ [c]) = depthOf bs + ((if isOpening c then 1 else 0) - if isClosing c then 1 else 0) := by
  simp only [depthOf, List.countP_append, List.countP_singleton]
  split <;> split <;> simp <;> omega

theorem length_of_bracketStep {stack stack' : List Char} {c : Char} (h : bracketStep stack c = some stack') :
    (stack'.length : Int) = stack.length + ((if isOpening c then 1 else 0) - if isClosing c then 1 else 0) := by
  unfold bracketStep at h
  split at h
  · next hopening =>
    cases h
    simp [hopening, isClosing_eq_false hopening]
  · next hopening =>
    split at h
    · cases h
    · split at h
      · next hpair =>
        cases h
        rw [if_neg hopening, if_pos (isClosing_of_opening? hpair), List.length_cons]
        omega
      · cases h

/-- As long as brackets close each other, as many are open as they are deep. -/
theorem depthOf_eq {bs stack : List Char} (h : openAfter bs = some stack) : depthOf bs = stack.length := by
  induction bs using List.reverseRecOn generalizing stack with
  | nil =>
    cases h
    rfl
  | append_singleton bs c ih =>
    rw [openAfter_concat, Option.bind_eq_some_iff] at h
    obtain ⟨before, hbefore, hstep⟩ := h
    rw [depthOf_concat, ih hbefore, length_of_bracketStep hstep]

end ModuleDocs.Hcl
