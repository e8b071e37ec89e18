import Mathlib.Data.List.Forall2

/-! # Steps that succeed

What the success of a computation says about its steps: of two steps in a row (`bind_eq_ok`), of the same step
for each entry of a list (`mapM_eq_ok`). -/
set_option autoImplicit false

namespace ModuleDocs

section Steps
variable {ε α β : Type}

@[simp] theorem bind_eq_ok {x : Except ε α} {f : α → Except ε β} {b : β} :
    x >>= f = .ok b ↔ ∃ a, x = .ok a ∧ f a = .ok b := by
  cases x <;> simp [bind, Except.bind]

@[simp] theorem map_eq_ok {x : Except ε α} {f : α → β} {b : β} :
    x.map f = .ok b ↔ ∃ a, x = .ok a ∧ f a = b := by
  cases x <;> simp [Except.map]

@[simp] theorem pure_eq_ok {a b : α} : (pure a : Except ε α) = .ok b ↔ a = b := by
  simp [pure, Except.pure]

@[simp] theorem mapError_eq_ok {ε' : Type} {x : Except ε α} {f : ε → ε'} {a : α} :
    x.mapError f = .ok a ↔ x = .ok a := by
  cases x <;> simp [Except.mapError]

theorem mapError_bind {ε' : Type} (x : Except ε α) (f : α → Except ε β) (g : ε → ε') :
    (x >>= f).mapError g = x.mapError g >>= fun a => (f a).mapError g := by
  cases x <;> rfl

theorem exists_of_isOk {x : Except ε α} (h : x.isOk = true) : ∃ a, x = .ok a := by
  cases x with
  | error e => cases h
  | ok a => exact ⟨a, rfl⟩

theorem forall_of_toOption_all {x : Except ε α} {p : α → Prop} [DecidablePred p]
    (h : x.toOption.all (fun a => decide (p a)) = true) : ∀ a, x = .ok a → p a := by
  rintro a rfl
  exact of_decide_eq_true h

theorem exists_of_toOption_any {x : Except ε α} {p : α → Prop} [DecidablePred p]
    (h : x.toOption.any (fun a => decide (p a)) = true) : ∃ a, x = .ok a ∧ p a := by
  cases x with
  | error e => cases h
  | ok a => exact ⟨a, rfl, of_decide_eq_true h⟩

theorem ok_bind (a : α) (f : α → Except ε β) : (Except.ok a >>= f) = f a := rfl

/-- A step for each entry of a list succeeds when it does so for every single one. -/
theorem mapM_eq_ok {f : α → Except ε β} {xs : List α} {ys : List β} :
    xs.mapM f = .ok ys ↔ List.Forall₂ (fun x y => f x = .ok y) xs ys := by
  induction xs generalizing ys with
  | nil =>
    rw [List.mapM_nil, pure_eq_ok, List.forall₂_nil_left_iff]
    exact eq_comm
  | cons x xs ih =>
    rw [List.mapM_cons, bind_eq_ok, List.forall₂_cons_left_iff]
    constructor
    · rintro ⟨y, hy, h⟩
      obtain ⟨rest, hrest, e⟩ := bind_eq_ok.mp h
      exact ⟨y, rest, hy, ih.mp hrest, (pure_eq_ok.mp e).symm⟩
    · rintro ⟨y, rest, hy, hrest, rfl⟩
      exact ⟨y, hy, bind_eq_ok.mpr ⟨rest, ih.mpr hrest, rfl⟩⟩

/-- A step for each entry of a list fails as it does for the first entry that it fails for. -/
theorem exists_of_mapM_error {f : α → Except ε β} {xs : List α} {e : ε} (h : xs.mapM f = .error e) :
    ∃ before x after, xs = before ++ x :: after ∧ (∀ y ∈ before, ∃ z, f y = .ok z) ∧ f x = .error e := by
  induction xs with
  | nil => cases h
  | cons x xs ih =>
    rw [List.mapM_cons] at h
    cases hx : f x with
    | error e' =>
      rw [hx] at h
      cases h
      exact ⟨[], x, xs, rfl, fun _ hy => absurd hy List.not_mem_nil, hx⟩
    | ok z =>
      rw [hx, ok_bind] at h
      cases hxs : xs.mapM f with
      | ok zs =>
        rw [hxs] at h
        cases h
      | error e' =>
        rw [hxs] at h
        cases h
        obtain ⟨before, y, after, rfl, hbefore, hy⟩ := ih hxs
        exact ⟨x :: before, y, after, rfl, List.forall_mem_cons.mpr ⟨⟨z, hx⟩, hbefore⟩, hy⟩

theorem length_of_mapM {f : α → Except ε β} {xs : List α} {ys : List β} (h : xs.mapM f = .ok ys) :
    ys.length = xs.length :=
  (mapM_eq_ok.mp h).length_eq.symm

theorem mapM_congr {f g : α → Except ε β} {xs : List α} (h : ∀ x ∈ xs, f x = g x) : xs.mapM f = xs.mapM g := by
  induction xs with
  | nil => rfl
  | cons x xs ih =>
    rw [List.mapM_cons, List.mapM_cons, h x List.mem_cons_self,
      ih fun y hy => h y (List.mem_cons_of_mem x hy)]

/-- What is seen of the results is what is seen of the entries, if a single step keeps it. -/
theorem map_eq_of_mapM {γ : Type} {f : α → Except ε β} {xs : List α} {ys : List β} {view : α → γ} {view' : β → γ}
    (hview : ∀ x ∈ xs, ∀ y, f x = .ok y → view' y = view x) (h : xs.mapM f = .ok ys) :
    ys.map view' = xs.map view := by
  have hall := mapM_eq_ok.mp h
  clear h
  induction hall with
  | nil => rfl
  | cons hxy _ ih =>
    rw [List.map_cons, List.map_cons, hview _ List.mem_cons_self _ hxy,
      ih fun x hx => hview x (List.mem_cons_of_mem _ hx)]

theorem exists_of_mem_mapM {f : α → Except ε β} {xs : List α} {ys : List β} (h : xs.mapM f = .ok ys) {y : β}
    (hy : y ∈ ys) : ∃ x ∈ xs, f x = .ok y := by
  have hmap : ys.map Except.ok = xs.map f := map_eq_of_mapM (fun _ _ _ e => e.symm) h
  have hmem : Except.ok y ∈ xs.map f := hmap ▸ List.mem_map_of_mem hy
  exact List.mem_map.mp hmem

theorem exists_mem_of_mapM {f : α → Except ε β} {xs : List α} {ys : List β} (h : xs.mapM f = .ok ys) {x : α}
    (hx : x ∈ xs) : ∃ y ∈ ys, f x = .ok y := by
  have hmap : ys.map Except.ok = xs.map f := map_eq_of_mapM (fun _ _ _ e => e.symm) h
  obtain ⟨y, hy, hxy⟩ := List.mem_map.mp (hmap ▸ List.mem_map_of_mem hx : f x ∈ ys.map Except.ok)
  exact ⟨y, hy, hxy.symm⟩

theorem mapM_mapM_eq_ok {γ : Type} {f : α → Except ε β} {g : β → Except ε γ} {k : α → Except ε γ} {xs : List α}
    {ys : List β} {zs : List γ} (hk : ∀ x y z, f x = .ok y → (g y = .ok z ↔ k x = .ok z))
    (h : xs.mapM f = .ok ys) : ys.mapM g = .ok zs ↔ xs.mapM k = .ok zs := by
  rw [mapM_eq_ok, mapM_eq_ok]
  have hall := mapM_eq_ok.mp h
  clear h
  induction hall generalizing zs with
  | nil => rw [List.forall₂_nil_left_iff, List.forall₂_nil_left_iff]
  | cons hxy _ ih =>
    rw [List.forall₂_cons_left_iff, List.forall₂_cons_left_iff]
    constructor
    · rintro ⟨z, rest, hz, hrest, rfl⟩
      exact ⟨z, rest, (hk _ _ _ hxy).mp hz, ih.mp hrest, rfl⟩
    · rintro ⟨z, rest, hz, hrest, rfl⟩
      exact ⟨z, rest, (hk _ _ _ hxy).mpr hz, ih.mpr hrest, rfl⟩

theorem mapM_bind_eq_ok {γ : Type} {f : α → Except ε β} {g : β → Except ε γ} {xs : List α} {zs : List γ} :
    xs.mapM (fun x => f x >>= g) = .ok zs ↔ ∃ ys, xs.mapM f = .ok ys ∧ ys.mapM g = .ok zs := by
  induction xs generalizing zs with
  | nil => simp
  | cons x xs ih =>
    simp only [List.mapM_cons, bind_eq_ok, pure_eq_ok, ih]
    constructor
    · rintro ⟨z, ⟨y, hy, hz⟩, rest, ⟨ys, hys, hrest⟩, rfl⟩
      refine ⟨y :: ys, ⟨y, hy, ys, hys, rfl⟩, ?_⟩
      simp only [List.mapM_cons, bind_eq_ok, pure_eq_ok]
      exact ⟨z, hz, rest, hrest, rfl⟩
    · rintro ⟨_, ⟨y, hy, ys, hys, rfl⟩, h⟩
      simp only [List.mapM_cons, bind_eq_ok, pure_eq_ok] at h
      obtain ⟨z, hz, rest, hrest, rfl⟩ := h
      exact ⟨z, ⟨y, hy, hz⟩, rest, ⟨ys, hys, hrest⟩, rfl⟩

/-- The same step for related entries of two lists gives the same, if it does so for two related entries. -/
theorem mapM_eq_mapM_of_forall₂ {f : α → Except ε β} {R : α → α → Prop}
    (hR : ∀ x x' y y', R x x' → f x = .ok y → f x' = .ok y' → y = y') {xs xs' : List α} (hxs : List.Forall₂ R xs xs')
    {ys ys' : List β} (h : xs.mapM f = .ok ys) (h' : xs'.mapM f = .ok ys') : ys = ys' := by
  induction hxs generalizing ys ys' with
  | nil =>
    cases h
    cases h'
    rfl
  | cons hxx _ ih =>
    simp only [List.mapM_cons, bind_eq_ok, pure_eq_ok] at h h'
    obtain ⟨y, hy, rest, hrest, rfl⟩ := h
    obtain ⟨y', hy', rest', hrest', rfl⟩ := h'
    rw [hR _ _ _ _ hxx hy hy', ih hrest hrest']

/-- What a step gives, or something else where it fails. -/
def resultD (default : α) (x : Except ε α) : α := x.toOption.getD default

@[simp] theorem resultD_ok (default a : α) : resultD default (Except.ok a : Except ε α) = a := rfl

theorem mapM_eq_ok_iff_map {f : α → Except ε β} {xs : List α} {ys : List β} (default : β) :
    xs.mapM f = .ok ys ↔ (∀ x ∈ xs, ∃ y, f x = .ok y) ∧ ys = xs.map fun x => resultD default (f x) := by
  rw [mapM_eq_ok]
  constructor
  · intro h
    induction h with
    | nil => exact ⟨by simp, rfl⟩
    | cons hxy _ ih =>
      refine ⟨List.forall_mem_cons.mpr ⟨⟨_, hxy⟩, ih.1⟩, ?_⟩
      rw [List.map_cons, hxy, ← ih.2, resultD_ok]
  · rintro ⟨hall, rfl⟩
    rw [List.forall₂_map_right_iff, List.forall₂_same]
    intro x hx
    obtain ⟨y, hy⟩ := hall x hx
    rw [hy, resultD_ok]

theorem exists_mapM_eq_ok [Inhabited β] {f : α → Except ε β} {xs : List α} :
    (∃ ys, xs.mapM f = .ok ys) ↔ ∀ x ∈ xs, ∃ y, f x = .ok y := by
  simp only [mapM_eq_ok_iff_map default, exists_and_left, exists_eq, and_true]

/-- Choosing among the results of a step is choosing among the entries, if the two choices agree. -/
theorem mapM_filter {f : α → Except ε β} {xs : List α} {ys : List β} (h : xs.mapM f = .ok ys)
    {p : α → Bool} {q : β → Bool} (hpq : ∀ x ∈ xs, ∀ y, f x = .ok y → q y = p x) :
    (xs.filter p).mapM f = .ok (ys.filter q) := by
  rw [mapM_eq_ok] at h ⊢
  induction h with
  | nil => exact .nil
  | @cons x y xs ys hxy _ ih =>
    have hhead := hpq x List.mem_cons_self y hxy
    have ih' := ih fun z hz => hpq z (List.mem_cons_of_mem x hz)
    rw [List.filter_cons, List.filter_cons, hhead]
    split
    · exact .cons hxy ih'
    · exact ih'

/-- The two halves of the results are the results of the two halves exactly if the choices agree. -/
theorem mapM_filter_iff {f : α → Except ε β} {xs : List α} {ys : List β} (h : xs.mapM f = .ok ys)
    {p : α → Bool} {q : β → Bool} :
    ((xs.filter p).mapM f = .ok (ys.filter q) ∧ (xs.filter (!p ·)).mapM f = .ok (ys.filter (!q ·))) ↔
      ∀ x ∈ xs, ∀ y, f x = .ok y → q y = p x := by
  constructor
  · rintro ⟨hin, hout⟩ x hx y hxy
    cases hp : p x with
    | true =>
      obtain ⟨y', hy', hxy'⟩ := exists_mem_of_mapM hin (List.mem_filter.mpr ⟨hx, hp⟩)
      obtain rfl := Except.ok.inj (hxy.symm.trans hxy')
      exact (List.mem_filter.mp hy').2
    | false =>
      obtain ⟨y', hy', hxy'⟩ := exists_mem_of_mapM hout (List.mem_filter.mpr ⟨hx, by simp [hp]⟩)
      obtain rfl := Except.ok.inj (hxy.symm.trans hxy')
      simpa using (List.mem_filter.mp hy').2
  · intro hpq
    refine ⟨mapM_filter h hpq, mapM_filter h fun x hx y hxy => ?_⟩
    rw [hpq x hx y hxy]

end Steps

end ModuleDocs
