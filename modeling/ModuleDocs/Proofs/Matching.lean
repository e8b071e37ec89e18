import ModuleDocs.Pattern.Replace

/-! # What matchers go over

What a tree goes over is a text that it spells (`Node.goesOver`), so a pattern that spells no part of a text changes
nothing in it (`replaceIn_of_absent`). A tree leads from one place to another if it tries that place before all others
(`Node.Leads`): where the rest of the work succeeds there, its result is taken. A pattern that leads from the start of a
text to its end has the whole text as its one match (`replaceIn_whole`). -/
set_option autoImplicit false

namespace ModuleDocs.Pattern

/-! ## Texts that a tree spells -/

/-- Texts of a kind one after the other, at least so many. -/
def InRounds (kind : List Char → Prop) (least : Nat) (x : List Char) : Prop :=
  ∃ parts : List (List Char), least ≤ parts.length ∧ (∀ y ∈ parts, kind y) ∧ x = parts.flatten

/-- The texts that a tree may go over. What it asks for besides is left out: what a reference refers to, what stands
before or after a place, and the most rounds of a repetition. -/
def Node.Spells : Node → List Char → Prop
  | .empty, x | .anchor _, x | .ahead _ _, x | .behind _ _ _, x => x = []
  | .char c, x => x = [c]
  | .set s, x => ∃ c, s.has c = true ∧ x = [c]
  | .anyChar _, x => ∃ c, x = [c]
  | .seq first second, x => ∃ y z, first.Spells y ∧ second.Spells z ∧ x = y ++ z
  | .alt first second, x => first.Spells x ∨ second.Spells x
  | .repeated body least _ _, x => InRounds body.Spells least x
  | .capture _ body, x | .atomic body, x => body.Spells x
  | .recall _ _ _, _ => True
  | .ifCaptured _ yes no, x => yes.Spells x ∨ no.Spells x

/-- A matcher goes on only after texts of a kind. -/
def Matcher.GoesOver (m : Matcher) (kind : List Char → Prop) : Prop :=
  ∀ p k q, m p k = some q → ∃ x p', p.after = x ++ p'.after ∧ kind x ∧ k p' = some q

theorem Place.after_of_next? {p q : Place} {c : Char} (h : p.next? = some (c, q)) : p.after = c :: q.after := by
  unfold Place.next? at h
  split at h
  · cases h
  · next c' rest hafter =>
    obtain ⟨rfl, rfl⟩ := Prod.mk.inj (Option.some.inj h)
    exact hafter

section Rounds
variable {kind : List Char → Prop}

theorem inRounds_nil : InRounds kind 0 [] := ⟨[], Nat.le_refl 0, by simp, rfl⟩

theorem InRounds.append {m n : Nat} {x y : List Char} (hx : InRounds kind m x) (hy : InRounds kind n y) :
    InRounds kind (m + n) (x ++ y) := by
  obtain ⟨parts, hm, hparts, rfl⟩ := hx
  obtain ⟨parts', hn, hparts', rfl⟩ := hy
  refine ⟨parts ++ parts', ?_, List.forall_mem_append.mpr ⟨hparts, hparts'⟩, List.flatten_append.symm⟩
  rw [List.length_append]
  exact Nat.add_le_add hm hn

theorem inRounds_one {x : List Char} (hx : kind x) {least : Nat} (hleast : least ≤ 1) : InRounds kind least x :=
  ⟨[x], hleast, by simpa using hx, by simp⟩

end Rounds

/-! ## Matchers -/

section GoesOver
variable {m m' : Matcher} {kind kind' : List Char → Prop}

theorem Matcher.GoesOver.andThen (h : m.GoesOver kind) {rest : Place → Matcher}
    (h' : ∀ p, (rest p).GoesOver kind') {whole : List Char → Prop}
    (hwhole : ∀ x y, kind x → kind' y → whole (x ++ y)) :
    Matcher.GoesOver (fun p k => m p fun q => rest q q k) whole := by
  intro p k q hk
  obtain ⟨x, p₁, hafter, hx, hk⟩ := h p _ q hk
  obtain ⟨y, p₂, hafter', hy, hk⟩ := h' p₁ p₁ k q hk
  exact ⟨x ++ y, p₂, by rw [hafter, hafter', List.append_assoc], hwhole x y hx hy, hk⟩

theorem goesOver_stay : Matcher.GoesOver (fun p k => k p) (· = []) := fun p _ _ hk => ⟨[], p, rfl, rfl, hk⟩

theorem goesOver_one {test : Char → Prop} [DecidablePred test] :
    Matcher.GoesOver (fun p k => match p.next? with
      | some (d, q) => if test d then k q else none
      | none => none) fun x => ∃ d, test d ∧ x = [d] := by
  intro p k q hk
  dsimp only at hk
  split at hk
  · next d p₁ hnext =>
    split at hk
    · next htest => exact ⟨[d], p₁, Place.after_of_next? hnext, ⟨d, htest, rfl⟩, hk⟩
    · cases hk
  · cases hk

theorem Matcher.GoesOver.mono (h : m.GoesOver kind) (hkind : ∀ x, kind x → kind' x) : m.GoesOver kind' := by
  intro p k q hk
  obtain ⟨x, p', hafter, hx, hk⟩ := h p k q hk
  exact ⟨x, p', hafter, hkind x hx, hk⟩

theorem goesOver_literally (same : Char → Char → Bool) (text : List Char) :
    (literally same text).GoesOver fun _ => True := by
  induction text with
  | nil => exact goesOver_stay.mono fun _ _ => trivial
  | cons c text ih =>
    intro p k q hk
    rw [literally] at hk
    obtain ⟨x, p₁, hafter, -, hk⟩ := goesOver_one p _ q hk
    obtain ⟨y, p₂, hafter', -, hk⟩ := ih p₁ k q hk
    exact ⟨x ++ y, p₂, by rw [hafter, hafter', List.append_assoc], trivial, hk⟩

variable (h : m.GoesOver kind)
include h

theorem goesOver_rounds (n : Nat) : (rounds m n).GoesOver (InRounds kind n) := by
  induction n with
  | zero => exact goesOver_stay.mono fun x hx => hx ▸ inRounds_nil
  | succ n ih =>
    refine h.andThen (fun _ => ih) fun x y hx hy => ?_
    rw [Nat.add_comm]
    exact (inRounds_one hx (Nat.le_refl 1)).append hy

theorem goesOver_moreRounds (budget : Nat) (left last : Option Nat) :
    (moreRounds m budget left last).GoesOver (InRounds kind 0) := by
  have hstay : Matcher.GoesOver (fun p k => k p) (InRounds kind 0) := goesOver_stay.mono fun x hx => hx ▸ inRounds_nil
  induction budget generalizing left last with
  | zero => exact hstay
  | succ budget ih =>
    intro p k q hk
    rw [moreRounds] at hk
    dsimp only at hk
    split at hk
    · exact hstay p k q hk
    split at hk
    · next hround =>
      cases hk
      obtain ⟨y, p₁, hafter, hy, hk⟩ := h p _ _ hround
      obtain ⟨x, p₂, hafter', hx, hk⟩ := ih _ _ p₁ k _ hk
      exact ⟨y ++ x, p₂, by rw [hafter, hafter', List.append_assoc],
        (inRounds_one hy (Nat.zero_le 1)).append hx, hk⟩
    · exact hstay p k q hk

theorem goesOver_fewRounds (budget : Nat) (left last : Option Nat) :
    (fewRounds m budget left last).GoesOver (InRounds kind 0) := by
  have hstay : Matcher.GoesOver (fun p k => k p) (InRounds kind 0) := goesOver_stay.mono fun x hx => hx ▸ inRounds_nil
  induction budget generalizing left last with
  | zero => exact hstay
  | succ budget ih =>
    intro p k q hk
    rw [fewRounds] at hk
    dsimp only at hk
    split at hk
    · next hstop =>
      cases hk
      exact hstay p k _ hstop
    split at hk
    · cases hk
    · obtain ⟨y, p₁, hafter, hy, hk⟩ := h p _ _ hk
      obtain ⟨x, p₂, hafter', hx, hk⟩ := ih _ _ p₁ k _ hk
      exact ⟨y ++ x, p₂, by rw [hafter, hafter', List.append_assoc],
        (inRounds_one hy (Nat.zero_le 1)).append hx, hk⟩

theorem goesOver_manyRounds (least : Nat) (most : Option Nat) :
    (manyRounds m least most).GoesOver (InRounds kind least) :=
  (goesOver_rounds h least).andThen (fun _ => goesOver_moreRounds h _ _ _) fun _ _ hx hy => hx.append hy

theorem goesOver_someRounds (least : Nat) (most : Option Nat) :
    (someRounds m least most).GoesOver (InRounds kind least) :=
  (goesOver_rounds h least).andThen (fun _ => goesOver_fewRounds h _ _ _) fun _ _ hx hy => hx.append hy

theorem Matcher.GoesOver.atomic : Matcher.GoesOver (fun p k => (m p some).bind k) kind := by
  intro p k q hk
  obtain ⟨p₁, hrun, hk⟩ := Option.bind_eq_some_iff.mp hk
  obtain ⟨x, p', hafter, hx, hp⟩ := h p some p₁ hrun
  exact ⟨x, p', hafter, hx, by rw [Option.some.inj hp, hk]⟩

end GoesOver

/-- What a tree goes over is a text that it spells. -/
theorem Node.goesOver (n : Node) : n.run.GoesOver n.Spells := by
  induction n with
  | empty => exact goesOver_stay
  | char c => exact goesOver_one.mono fun x ⟨d, hd, hx⟩ => by rw [hx, hd]; rfl
  | set s => exact goesOver_one
  | anyChar newlineToo => exact goesOver_one.mono fun x ⟨d, _, hx⟩ => ⟨d, hx⟩
  | anchor a =>
    intro p k q hk
    rw [run] at hk
    dsimp only at hk
    split at hk
    · exact goesOver_stay p k q hk
    · cases hk
  | seq first second ih₁ ih₂ => exact ih₁.andThen (fun _ => ih₂) fun y z hy hz => ⟨y, z, hy, hz, rfl⟩
  | alt first second ih₁ ih₂ =>
    intro p k q hk
    rw [run] at hk
    dsimp only at hk
    split at hk
    · next hfirst => exact ih₁.mono (fun _ => .inl) p k q (hk ▸ hfirst)
    · exact ih₂.mono (fun _ => .inr) p k q hk
  | repeated body least most greed ih =>
    cases greed with
    | greedy => exact goesOver_manyRounds ih least most
    | reluctant => exact goesOver_someRounds ih least most
    | possessive => exact (goesOver_manyRounds ih least most).atomic
  | capture index body ih =>
    intro p k q hk
    obtain ⟨x, p', hafter, hx, hk⟩ := ih p _ q hk
    exact ⟨x, { p' with captured := (index, p.between p') :: p'.captured }, hafter, hx, hk⟩
  | «recall» index foldCase ascii =>
    intro p k q hk
    rw [run] at hk
    dsimp only at hk
    split at hk
    · cases hk
    · exact goesOver_literally _ _ p k q hk
  | ahead wanted body ih =>
    intro p k q hk
    rw [run] at hk
    dsimp only at hk
    split at hk <;> split at hk
    · exact ⟨[], { p with captured := _ }, rfl, rfl, hk⟩
    · cases hk
    · cases hk
    · exact ⟨[], p, rfl, rfl, hk⟩
  | behind wanted width body ih =>
    intro p k q hk
    rw [run] at hk
    dsimp only at hk
    split at hk <;> split at hk
    · exact ⟨[], { p with captured := _ }, rfl, rfl, hk⟩
    · cases hk
    · cases hk
    · exact ⟨[], p, rfl, rfl, hk⟩
  | atomic body ih => exact ih.atomic
  | ifCaptured index yes no ih₁ ih₂ =>
    intro p k q hk
    rw [run] at hk
    dsimp only at hk
    split at hk
    · exact ih₁.mono (fun _ => .inl) p k q hk
    · exact ih₂.mono (fun _ => .inr) p k q hk

theorem Node.spells_ofList_cons {n : Node} {more : List Node} {x : List Char} :
    (Node.ofList (n :: more)).Spells x ↔ ∃ y z, n.Spells y ∧ (Node.ofList more).Spells z ∧ x = y ++ z := by
  cases more with
  | nil =>
    constructor
    · exact fun hx => ⟨x, [], hx, rfl, (List.append_nil x).symm⟩
    · rintro ⟨y, z, hy, hz, rfl⟩
      have hz : z = [] := hz
      rwa [hz, List.append_nil]
  | cons next more => exact Iff.rfl

theorem Node.exists_spells_of_append (front : List Node) {more : List Node} {x : List Char}
    (h : (Node.ofList (front ++ more)).Spells x) : ∃ y z, (Node.ofList more).Spells z ∧ x = y ++ z := by
  induction front generalizing x with
  | nil => exact ⟨[], x, h, rfl⟩
  | cons n front ih =>
    obtain ⟨y, z, -, hz, rfl⟩ := spells_ofList_cons.mp h
    obtain ⟨y', z', hz', rfl⟩ := ih hz
    exact ⟨y ++ y', z', hz', (List.append_assoc ..).symm⟩

theorem Node.spells_chars {cs : List Char} {more : List Node} {x : List Char} :
    (Node.ofList (cs.map Node.char ++ more)).Spells x ↔ ∃ z, (Node.ofList more).Spells z ∧ x = cs ++ z := by
  induction cs generalizing x with
  | nil => simp
  | cons c cs ih =>
    rw [List.map_cons, List.cons_append, spells_ofList_cons]
    constructor
    · rintro ⟨y, z, hy, hz, rfl⟩
      obtain ⟨z', hz', rfl⟩ := ih.mp hz
      have hy : y = [c] := hy
      exact ⟨z', hz', by rw [hy]; rfl⟩
    · rintro ⟨z, hz, rfl⟩
      exact ⟨[c], cs ++ z, rfl, ih.mpr ⟨z, hz, rfl⟩, rfl⟩

/-! ## Texts without a match -/

theorem Node.run_eq_none {n : Node} {p : Place} (h : ∀ x, x <+: p.after → ¬ n.Spells x) (k : Place → Option Place) :
    n.run p k = none := by
  rw [Option.eq_none_iff_forall_ne_some]
  intro q hk
  obtain ⟨x, p', hafter, hx, -⟩ := n.goesOver p k q hk
  exact h x ⟨p'.after, hafter.symm⟩ hx

section Absent
variable {pattern : Pattern}

theorem matchAt?_eq_none {p : Place} (h : ∀ x, x <+: p.after → ¬ pattern.node.Spells x) (advance : Bool) :
    pattern.matchAt? advance p = none := by
  rw [matchAt?, Option.map_eq_none_iff]
  exact Node.run_eq_none (p := { p with captured := [] }) h _

theorem searchFrom?_eq_none {p : Place} {rest : List Char} (hrest : p.after = rest)
    (h : ∀ x, x <:+: rest → ¬ pattern.node.Spells x) (advance : Bool) : pattern.searchFrom? advance p rest = none := by
  induction rest generalizing p advance with
  | nil => exact matchAt?_eq_none (fun x hx => h x (hrest ▸ hx).isInfix) advance
  | cons c rest ih =>
    rw [searchFrom?, matchAt?_eq_none fun x hx => h x (hrest ▸ hx).isInfix]
    exact ih rfl (fun x hx => h x (hx.trans (List.suffix_cons c rest).isInfix)) false

/-- A pattern that spells no part of a text leaves it as it is. -/
theorem replaceIn_of_absent {text : List Char} (h : ∀ x, x <:+: text → ¬ pattern.node.Spells x)
    (pieces : List Piece) : pattern.replaceIn pieces text = text := by
  have hnone : pattern.matchesIn text = [] := by
    rw [matchesIn, matchesFrom, searchFrom?_eq_none rfl h]
  rw [replaceIn, hnone, substituteFrom]

end Absent

/-! ## The place that is tried first -/

/-- The place in a text after a part of it. -/
def Place.on (done rest : List Char) (captured : List (Nat × List Char)) : Place :=
  ⟨done.reverse, rest, done.length, captured⟩

/-- A tree tries one place first: where the rest of the work succeeds there, its result is taken. -/
def Node.Leads (n : Node) (p p' : Place) : Prop := ∀ k q, k p' = some q → n.run p k = some q

section Leads
variable {n : Node} {done rest x : List Char} {captured captured' : List (Nat × List Char)} {p p' p'' : Place}

theorem Place.next?_on (c : Char) :
    (Place.on done (c :: rest) captured).next? = some (c, Place.on (done ++ [c]) rest captured) := by
  simp [Place.next?, Place.on]

theorem Place.after_on : (Place.on done rest captured).after = rest := rfl

theorem Place.offset_on : (Place.on done rest captured).offset = done.length := rfl

theorem Place.between_on :
    (Place.on done (x ++ rest) captured).between (Place.on (done ++ x) rest captured') = x := by
  simp [Place.between, Place.on]

theorem Node.leads_ofList_nil : (Node.ofList []).Leads p p := fun _ _ hk => hk

theorem Node.Leads.ofList_cons (h : n.Leads p p') {more : List Node} (h' : (Node.ofList more).Leads p' p'') :
    (Node.ofList (n :: more)).Leads p p'' := by
  intro k q hk
  cases more with
  | nil => exact h k q (h' k q hk)
  | cons next more => exact h _ q (h' k q hk)

theorem Node.leads_char (c : Char) :
    (Node.char c).Leads (.on done (c :: rest) captured) (.on (done ++ [c]) rest captured) := by
  intro k q hk
  rw [run]
  dsimp only
  rw [Place.next?_on]
  dsimp only
  rw [if_pos rfl, hk]

theorem Node.leads_chars {more : List Node} (h : (Node.ofList more).Leads (.on (done ++ x) rest captured) p') :
    (Node.ofList (x.map Node.char ++ more)).Leads (.on done (x ++ rest) captured) p' := by
  induction x generalizing done with
  | nil =>
    rw [List.append_nil] at h
    exact h
  | cons c x ih =>
    refine (leads_char c).ofList_cons (ih ?_)
    rwa [List.append_assoc, List.singleton_append]

theorem Node.Leads.capture (h : n.Leads (.on done (x ++ rest) captured) (.on (done ++ x) rest captured'))
    (index : Nat) : (Node.capture index n).Leads (.on done (x ++ rest) captured)
      (.on (done ++ x) rest ((index, x) :: captured')) := by
  intro k q hk
  refine h _ q ?_
  rw [Place.between_on]
  exact hk

/-! ## Repetitions -/

theorem Node.run_optional (n : Node) (p : Place) (k : Place → Option Place) :
    (Node.repeated n 0 (some 1) .greedy).run p k = (n.run p k).or (k p) := by
  have hlast : ∀ budget last, (fun q => moreRounds n.run budget (some 0) last q k) = k := fun budget last => by
    funext q
    cases budget with
    | zero => rfl
    | succ budget =>
      rw [moreRounds]
      exact if_pos (.inl rfl)
  have hrun : (Node.repeated n 0 (some 1) .greedy).run p k =
      moreRounds n.run (p.after.length + 2) (some 1) none p k := rfl
  rw [hrun, moreRounds]
  dsimp only
  rw [if_neg (by simp), Option.map_some, hlast]
  cases n.run p k <;> rfl

theorem Node.Leads.optional (h : n.Leads p p') : (Node.repeated n 0 (some 1) .greedy).Leads p p' := by
  intro k q hk
  rw [run_optional, h k q hk, Option.some_or]

/-- What may be left out is left out where the text goes on with another character. -/
theorem Node.leads_absent {c : Char} (h : ∀ x, n.Spells x → ∃ d more, d ≠ c ∧ x = d :: more) :
    (Node.repeated n 0 (some 1) .greedy).Leads (.on done (c :: rest) captured) (.on done (c :: rest) captured) := by
  have hnone : ∀ x, x <+: c :: rest → ¬ n.Spells x := by
    intro x hx hspelled
    obtain ⟨d, more, hd, rfl⟩ := h x hspelled
    exact hd (List.cons_prefix_cons.mp hx).1
  intro k q hk
  rw [run_optional, run_eq_none hnone, Option.none_or, hk]

section Set
variable {s : CharSet} {k : Place → Option Place} {q : Place}

theorem Node.run_set_of_has {c : Char} (hc : s.has c = true) :
    (Node.set s).run (.on done (c :: rest) captured) k = k (.on (done ++ [c]) rest captured) := by
  rw [run]
  dsimp only
  rw [Place.next?_on]
  exact if_pos hc

theorem Node.run_set_of_not (hrest : ∀ c ∈ rest.head?, s.has c = false) :
    (Node.set s).run (.on done rest captured) k = none := by
  refine run_eq_none (fun x hx hset => ?_) k
  obtain ⟨c, hc, rfl⟩ := hset
  obtain ⟨more, hmore⟩ := hx
  have hhead : rest.head? = some c := congrArg List.head? hmore.symm
  exact absurd (hc.symm.trans (hrest c hhead)) (by decide)

variable (hx : ∀ c ∈ x, s.has c = true) (hrest : ∀ c ∈ rest.head?, s.has c = false)
include hx hrest

theorem moreRounds_set {budget : Nat} (hbudget : x.length < budget) {last : Option Nat}
    (hlast : ∀ n ∈ last, n < done.length) (hk : k (.on (done ++ x) rest captured) = some q) :
    moreRounds (Node.set s).run budget none last (.on done (x ++ rest) captured) k = some q := by
  induction x generalizing done budget last with
  | nil =>
    obtain ⟨budget, rfl⟩ := Nat.exists_eq_add_one_of_ne_zero (Nat.ne_of_gt hbudget)
    rw [List.append_nil] at hk
    rw [List.nil_append, moreRounds]
    dsimp only
    rw [Node.run_set_of_not hrest, hk, ite_self]
  | cons c x ih =>
    obtain ⟨budget, rfl⟩ := Nat.exists_eq_add_one_of_ne_zero (Nat.ne_of_gt (Nat.zero_lt_of_lt hbudget))
    rw [List.forall_mem_cons] at hx
    have hgo : ¬ ((none : Option Nat) = some 0 ∨ last = some (Place.on done (c :: (x ++ rest)) captured).offset) := by
      rintro (h | h)
      · cases h
      · exact Nat.lt_irrefl _ (hlast _ h)
    have hnext : moreRounds (Node.set s).run budget none (some done.length) (.on (done ++ [c]) (x ++ rest) captured) k =
        some q :=
      ih hx.2 (Nat.lt_of_succ_lt_succ hbudget) (by simp) (by rwa [List.append_assoc, List.singleton_append])
    rw [List.cons_append, moreRounds]
    dsimp only
    rw [if_neg hgo, Node.run_set_of_has hx.1, Option.map_none, Place.offset_on, hnext]

theorem Node.leads_set (hne : x ≠ []) : (Node.repeated (.set s) 1 none .greedy).Leads (.on done (x ++ rest) captured)
    (.on (done ++ x) rest captured) := by
  intro k q hk
  obtain ⟨c, x, rfl⟩ := List.exists_cons_of_ne_nil hne
  rw [List.forall_mem_cons] at hx
  have hrun : (Node.repeated (.set s) 1 none .greedy).run (.on done (c :: (x ++ rest)) captured) k =
      (Node.set s).run (.on done (c :: (x ++ rest)) captured) fun q =>
        moreRounds (Node.set s).run (q.after.length + 2) none none q k := rfl
  rw [List.cons_append, hrun, run_set_of_has hx.1]
  refine moreRounds_set hx.2 hrest ?_ (by simp) ?_
  · show x.length < (x ++ rest).length + 2
    rw [List.length_append]
    omega
  · rwa [List.append_assoc, List.singleton_append]

end Set

end Leads

/-! ## A match of the whole text -/

theorem capture?_on {start index : Nat} (h : index ≠ 0) {text done rest : List Char}
    {captured : List (Nat × List Char)} :
    (Match.mk start text (.on done rest captured)).capture? index = captured.lookup index :=
  if_neg h

/-- A pattern that leads from the start of a text to its end replaces it as a whole. -/
theorem replaceIn_whole {pattern : Pattern} {text : List Char} {captured : List (Nat × List Char)}
    (h : pattern.node.Leads (.on [] text []) (.on text [] captured)) (hempty : ¬ pattern.node.Spells [])
    (pieces : List Piece) :
    pattern.replaceIn pieces text = pieces.flatMap (Piece.expand ⟨0, text, .on text [] captured⟩) := by
  have hbetween := @Place.between_on [] [] text [] captured
  rw [List.append_nil, List.nil_append] at hbetween
  have hmatch : pattern.matchAt? false (.on [] text []) = some ⟨0, text, .on text [] captured⟩ := by
    rw [matchAt?]
    simp only [Bool.false_and, Bool.false_eq_true, if_false]
    change Option.map (fun q => Match.mk 0 ((Place.on [] text []).between q) q)
      (pattern.node.run (.on [] text []) some) = _
    rw [h some _ rfl, Option.map_some, hbetween]
  have hfirst : pattern.searchFrom? false (.on [] text []) text = some ⟨0, text, .on text [] captured⟩ := by
    cases text with
    | nil => exact hmatch
    | cons c text => rw [searchFrom?, hmatch]
  have hnext : pattern.searchFrom? text.isEmpty (.on text [] captured) [] = none :=
    searchFrom?_eq_none rfl (fun x hx => by rwa [List.infix_nil.mp hx]) _
  have hmatches : ∀ fuel, pattern.matchesFrom (fuel + 2) false (.on [] text []) =
      [⟨0, text, .on text [] captured⟩] := by
    intro fuel
    simp only [matchesFrom, Place.after_on, hfirst, hnext]
  have hin : pattern.matchesIn text = [⟨0, text, .on text [] captured⟩] := hmatches (2 * text.length)
  rw [replaceIn, hin, substituteFrom, substituteFrom]
  simp

end ModuleDocs.Pattern
