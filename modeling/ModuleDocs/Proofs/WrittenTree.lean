import ModuleDocs.Proofs.Loading

/-! # Trees of written values

A value is written for certain tokens (`Value.tokens`) and a certain tree (`Value.node`). The tree is what is parsed
from the tokens (`parseNode_tokens`), and a value whose scalars can be told from their texts is built from it
(`make_node`). -/
set_option autoImplicit false

namespace ModuleDocs

open Yaml

mutual

def Value.tokens : Value → List Token
  | .str s => [.scalar s false]
  | .list [] => [.flowSequenceStart, .flowSequenceEnd]
  | .list (v :: items) => .sequenceStart :: (itemTokens (v :: items) ++ [.blockEnd])
  | .map [] => [.flowMappingStart, .flowMappingEnd]
  | .map (e :: entries) => .mappingStart :: (entryTokens (e :: entries) ++ [.blockEnd])
  | v => [.scalar (scalarText v) true]

def itemTokens : List Value → List Token
  | [] => []
  | v :: more => .blockEntry :: (v.tokens ++ itemTokens more)

def entryTokens : List (String × Value) → List Token
  | [] => []
  | (key, v) :: more => .key :: .scalar key false :: .value :: (v.tokens ++ entryTokens more)

end

mutual

def Value.node : Value → Node
  | .str s => .scalar .str s
  | .list items => .sequence .seq (itemNodes items)
  | .map entries => .mapping .map (entryNodes entries)
  | v => .scalar (.ofPlain false (scalarText v).toList) (scalarText v)

def itemNodes : List Value → List Node
  | [] => []
  | v :: more => v.node :: itemNodes more

def entryNodes : List (String × Value) → List (Node × Node)
  | [] => []
  | (key, v) :: more => (.scalar .str key, v.node) :: entryNodes more

end

namespace Yaml

/-! ## Parsing -/

/-- Whether a value that is written without properties starts with a token. -/
def startsValue : Token → Bool
  | .scalar _ _ | .sequenceStart | .mappingStart | .flowSequenceStart | .flowMappingStart => true
  | _ => false

theorem exists_tokens (v : Value) : ∃ t more, v.tokens = t :: more ∧ startsValue t = true := by
  cases v with
  | list items => cases items <;> exact ⟨_, _, rfl, rfl⟩
  | map entries => cases entries <;> exact ⟨_, _, rfl, rfl⟩
  | _ => exact ⟨_, _, rfl, rfl⟩

section Parsing
variable {fuel : Nat} {rest : List Token}

theorem parseNode_sequenceStart {items : List Node} {rest' : List Token}
    (h : parseItems fuel { rest } = .ok (items, { rest := rest' })) (b : Bool) :
    parseNode (fuel + 1) true b { rest := .sequenceStart :: rest } = .ok (.sequence .seq items, { rest := rest' }) := by
  have hstep : parseNode (fuel + 1) true b { rest := .sequenceStart :: rest } =
      (do return .sequence .seq (← parseItems fuel) : Parse Node) { rest } := rfl
  rw [hstep]
  simp only [bind, StateT.bind, h]
  rfl

theorem parseNode_mappingStart {entries : List (Node × Node)} {rest' : List Token}
    (h : parseEntries fuel { rest } = .ok (entries, { rest := rest' })) (b : Bool) :
    parseNode (fuel + 1) true b { rest := .mappingStart :: rest } = .ok (.mapping .map entries, { rest := rest' }) := by
  have hstep : parseNode (fuel + 1) true b { rest := .mappingStart :: rest } =
      (do return .mapping .map (← parseEntries fuel) : Parse Node) { rest } := rfl
  rw [hstep]
  simp only [bind, StateT.bind, h]
  rfl

theorem parseItems_blockEntry {t : Token} (ht : startsValue t = true) {item : Node} {rest' : List Token}
    (hitem : parseNode fuel true false { rest := t :: rest } = .ok (item, { rest := rest' })) {items : List Node}
    {s : Parsing} (hmore : parseItems fuel { rest := rest' } = .ok (items, s)) :
    parseItems (fuel + 1) { rest := .blockEntry :: t :: rest } = .ok (item :: items, s) := by
  have hstep : parseItems (fuel + 1) { rest := .blockEntry :: t :: rest } = (do
      let item ← if [Token.blockEntry, .blockEnd].contains t then missing else parseNode fuel true false
      return item :: (← parseItems fuel) : Parse (List Node)) { rest := t :: rest } := rfl
  have hbetween : [Token.blockEntry, .blockEnd].contains t = false := by cases t <;> first | rfl | cases ht
  rw [hstep, hbetween, if_neg Bool.false_ne_true]
  simp only [bind, StateT.bind, hitem, Except.bind, hmore]
  rfl

theorem parseEntries_key (key : String) {t : Token} (ht : startsValue t = true) {value : Node} {rest' : List Token}
    (hvalue : parseNode (fuel + 1) true true { rest := t :: rest } = .ok (value, { rest := rest' }))
    {entries : List (Node × Node)} {s : Parsing}
    (hmore : parseEntries (fuel + 1) { rest := rest' } = .ok (entries, s)) :
    parseEntries (fuel + 2) { rest := .key :: .scalar key false :: .value :: t :: rest } =
      .ok ((.scalar .str key, value) :: entries, s) := by
  have hstep : parseEntries (fuel + 2) { rest := .key :: .scalar key false :: .value :: t :: rest } =
      ((if [Token.key, .value, .blockEnd].contains t then missing else parseNode (fuel + 1) true true) >>= fun value =>
        return (.scalar .str key, value) :: (← parseEntries (fuel + 1)) : Parse (List (Node × Node)))
          { rest := t :: rest } := rfl
  have hbetween : [Token.key, .value, .blockEnd].contains t = false := by cases t <;> first | rfl | cases ht
  rw [hstep, hbetween, if_neg Bool.false_ne_true]
  simp only [bind, StateT.bind, hvalue, Except.bind, hmore]
  rfl

end Parsing

mutual

theorem parseNode_tokens : ∀ (v : Value) {fuel : Nat}, v.tokens.length ≤ fuel → ∀ (b : Bool) (rest : List Token),
    parseNode fuel true b { rest := v.tokens ++ rest } = .ok (v.node, { rest })
  | .list [], fuel, h, b, rest => by
    obtain ⟨fuel, rfl⟩ := Nat.exists_eq_add_of_le' h
    rfl
  | .list (v :: items), fuel, h, b, rest => by
    rw [Value.tokens, List.length_cons, List.length_append, List.length_singleton] at h
    obtain ⟨fuel, rfl⟩ := Nat.exists_eq_add_of_le' (Nat.le_of_add_left_le h)
    have hitems := parseItems_tokens (v :: items) (Nat.le_of_succ_le_succ h) rest
    rw [Value.tokens, List.cons_append, List.append_assoc, List.singleton_append]
    exact parseNode_sequenceStart hitems b
  | .map [], fuel, h, b, rest => by
    obtain ⟨fuel, rfl⟩ := Nat.exists_eq_add_of_le' h
    rfl
  | .map (e :: entries), fuel, h, b, rest => by
    rw [Value.tokens, List.length_cons, List.length_append, List.length_singleton] at h
    obtain ⟨fuel, rfl⟩ := Nat.exists_eq_add_of_le' (Nat.le_of_add_left_le h)
    have hentries := parseEntries_tokens (e :: entries) (Nat.le_of_succ_le_succ h) rest
    rw [Value.tokens, List.cons_append, List.append_assoc, List.singleton_append]
    exact parseNode_mappingStart hentries b
  | .str _, fuel, h, b, rest => by
    obtain ⟨fuel, rfl⟩ := Nat.exists_eq_add_of_le' h
    rfl
  | .null, fuel, h, b, rest | .bool _, fuel, h, b, rest | .int _, fuel, h, b, rest | .float _, fuel, h, b, rest => by
    obtain ⟨fuel, rfl⟩ := Nat.exists_eq_add_of_le' h
    rfl

theorem parseItems_tokens : ∀ (items : List Value) {fuel : Nat}, (itemTokens items).length + 1 ≤ fuel →
    ∀ rest : List Token,
      parseItems fuel { rest := itemTokens items ++ .blockEnd :: rest } = .ok (itemNodes items, { rest })
  | [], fuel, h, rest => by
    obtain ⟨fuel, rfl⟩ := Nat.exists_eq_add_of_le' h
    rfl
  | v :: more, fuel, h, rest => by
    rw [itemTokens, List.length_cons, List.length_append] at h
    obtain ⟨fuel, rfl⟩ := Nat.exists_eq_add_of_le' (Nat.le_of_add_left_le h)
    have hlength : v.tokens.length ≤ fuel := by omega
    have hmoreLength : (itemTokens more).length + 1 ≤ fuel := by omega
    have hv := parseNode_tokens v hlength false (itemTokens more ++ .blockEnd :: rest)
    have hmore := parseItems_tokens more hmoreLength rest
    obtain ⟨t, ts, htokens, ht⟩ := exists_tokens v
    rw [htokens] at hv
    rw [itemTokens, htokens, List.cons_append, List.append_assoc]
    exact parseItems_blockEntry ht hv hmore

theorem parseEntries_tokens : ∀ (entries : List (String × Value)) {fuel : Nat},
    (entryTokens entries).length + 1 ≤ fuel → ∀ rest : List Token,
      parseEntries fuel { rest := entryTokens entries ++ .blockEnd :: rest } = .ok (entryNodes entries, { rest })
  | [], fuel, h, rest => by
    obtain ⟨fuel, rfl⟩ := Nat.exists_eq_add_of_le' h
    rfl
  | (key, v) :: more, fuel, h, rest => by
    rw [entryTokens, List.length_cons, List.length_cons, List.length_cons, List.length_append] at h
    obtain ⟨fuel, rfl⟩ : ∃ n, fuel = n + 2 := ⟨fuel - 2, by omega⟩
    have hlength : v.tokens.length ≤ fuel + 1 := by omega
    have hmoreLength : (entryTokens more).length + 1 ≤ fuel + 1 := by omega
    have hv := parseNode_tokens v hlength true (entryTokens more ++ .blockEnd :: rest)
    have hmore := parseEntries_tokens more hmoreLength rest
    obtain ⟨t, ts, htokens, ht⟩ := exists_tokens v
    rw [htokens] at hv
    rw [entryTokens, htokens]
    simp only [List.cons_append, List.append_assoc]
    exact parseEntries_key key ht hv hmore

end

theorem document_of_tokens {v : Value} {text : List Char} (h : tokensOf text = v.tokens) :
    document text = .ok (some v.node, false) := by
  have hlength : v.tokens.length ≤ 2 * v.tokens.length + 2 := by omega
  have hnode := parseNode_tokens v hlength false []
  obtain ⟨t, more, htokens, ht⟩ := exists_tokens v
  -- The stream has no directives, so the document starts at once.
  have hstep : ∀ fuel, parseStream fuel { rest := t :: more } = (do
      let node ← parseNode fuel true false
      let _ ← accept .documentEnd
      if (← get).version = (1, 1) then
        modify fun s => { s with rest := s.rest.dropWhile (· == .documentEnd) }
      if (← get).rest.isEmpty then return some node else refuse : Parse (Option Node)) { rest := t :: more } := by
    intro fuel
    cases t <;> first | rfl | cases ht
  rw [List.append_nil, htokens] at hnode
  rw [document, h, htokens]
  simp only [StateT.run, hstep, bind, StateT.bind, hnode]
  rfl

/-! ## Building -/

/-- A datum is built without faults. -/
structure Built.Makes (b : Built) (d : Datum) : Prop where
  datum : b.datum = d
  faults : ∀ f ∈ b.faults, f = none

section Building
variable {b : Built} {d : Datum}

theorem Built.Makes.first (h : b.Makes d) : b.first = none :=
  List.findSome?_eq_none_iff.mpr h.faults

theorem Built.Makes.atOnce (h : b.Makes d) : b.atOnce = none := by
  unfold Built.atOnce
  cases hfaults : b.faults with
  | nil => rfl
  | cons f more => exact h.faults f (by rw [hfaults]; exact List.mem_cons_self)

theorem mergeFaults_eq_none {as bs : List (Option Error)} (has : ∀ f ∈ as, f = none) (hbs : ∀ f ∈ bs, f = none) :
    ∀ f ∈ Built.mergeFaults as bs, f = none := by
  induction as generalizing bs with
  | nil => simpa [Built.mergeFaults] using hbs
  | cons a as ih =>
    cases bs with
    | nil => simpa [Built.mergeFaults] using has
    | cons b bs =>
      rw [List.forall_mem_cons] at has hbs
      rw [Built.mergeFaults, List.forall_mem_cons]
      exact ⟨by rw [has.1, hbs.1]; rfl, ih has.2 hbs.2⟩

theorem makes_filled {steps : List (Option Error)} (hsteps : ∀ f ∈ steps, f = none) {parts : List Built}
    (hparts : ∀ b ∈ parts, ∀ f ∈ b.faults, f = none) : (Built.filled d steps parts).Makes d := by
  have hlater : ∀ (lists : List (List (Option Error))) (faults : List (Option Error)),
      (∀ l ∈ lists, ∀ f ∈ l, f = none) → (∀ f ∈ faults, f = none) →
        ∀ f ∈ lists.foldl Built.mergeFaults faults, f = none := by
    intro lists
    induction lists with
    | nil => exact fun faults _ hfaults => hfaults
    | cons l lists ih =>
      intro faults hlists hfaults
      rw [List.forall_mem_cons] at hlists
      exact ih _ hlists.2 (mergeFaults_eq_none hfaults hlists.1)
  refine ⟨rfl, ?_⟩
  rw [Built.filled, List.forall_mem_cons, List.forall_mem_cons]
  refine ⟨rfl, List.findSome?_eq_none_iff.mpr hsteps, hlater _ [] ?_ (by simp)⟩
  intro l hl
  obtain ⟨b, hb, rfl⟩ := List.mem_map.mp hl
  exact fun f hf => hparts b hb f (List.mem_of_mem_tail hf)

end Building

section Values
variable {make : Value → Built}

theorem ofItems_eq_map (items : List Value) : Datum.ofItems items = items.map Datum.ofValue := by
  induction items with
  | nil => rfl
  | cons v items ih => rw [Datum.ofItems, ih, List.map_cons]

theorem makes_list {items : List Value} (h : ∀ v ∈ items, (make v).Makes (.ofValue v)) :
    (Built.list (items.map make)).Makes (.ofValue (.list items)) := by
  have hdata : .ofValue (.list items) = Datum.list ((items.map make).map Built.datum) := by
    rw [Datum.ofValue, ofItems_eq_map, List.map_map]
    exact congrArg Datum.list (List.map_congr_left fun v hv => (h v hv).datum.symm)
  rw [hdata]
  refine makes_filled (fun f hf => ?_) fun b hb => ?_
  · obtain ⟨b, hb, rfl⟩ := List.mem_map.mp hf
    obtain ⟨v, hv, rfl⟩ := List.mem_map.mp hb
    exact (h v hv).atOnce
  · obtain ⟨v, hv, rfl⟩ := List.mem_map.mp hb
    exact (h v hv).faults

theorem setEntry_of_entry? {key : String} {found : List (Datum × Datum)} (h : Datum.entry? key found = none)
    (d : Datum) : Datum.setEntry (.str key) d found = found ++ [(.str key, d)] := by
  induction found with
  | nil => rfl
  | cons e found ih =>
    rw [Datum.entry?_cons] at h
    split at h
    · cases h
    · next hkey => rw [Datum.setEntry, if_neg hkey, ih h, List.cons_append]

/-- The steps of filling a map with entries whose keys are new find no fault, and put the entries in their order. -/
theorem mapSteps_eq {entries : List (String × Value)} (h : ∀ e ∈ entries, (make e.2).Makes (.ofValue e.2))
    (hnew : (entries.map Prod.fst).Nodup) {found : List (Datum × Datum)}
    (hfound : ∀ e ∈ entries, Datum.entry? e.1 found = none) :
    ∃ steps, Built.mapSteps true (entries.map fun e => ({ datum := .str e.1 }, make e.2)) found =
      (steps, found ++ Datum.ofEntries entries) ∧ ∀ f ∈ steps, f = none := by
  induction entries generalizing found with
  | nil => exact ⟨[], by simp [Built.mapSteps, Datum.ofEntries], by simp⟩
  | cons e entries ih =>
    obtain ⟨key, v⟩ := e
    rw [List.map_cons, List.nodup_cons] at hnew
    rw [List.forall_mem_cons] at h hfound
    have hset := setEntry_of_entry? hfound.1 (make v).datum
    have hrepeated : (found.any fun e => e.1.isSame (.str key)) = false := by
      have hnone := hfound.1
      rw [Datum.entry?, Option.map_eq_none_iff, List.find?_eq_none] at hnone
      simpa using hnone
    have hmore : ∀ e ∈ entries, Datum.entry? e.1 (found ++ [(.str key, (make v).datum)]) = none := by
      intro e he
      have hne : key ≠ e.1 := fun heq => hnew.1 (List.mem_map.mpr ⟨e, he, heq.symm⟩)
      rw [← hset, Datum.entry?_setEntry, if_neg hne, hfound.2 e he]
    obtain ⟨steps, hsteps, hnone⟩ := ih h.2 hnew.2 hmore
    refine ⟨[none, none, none, none, none] ++ steps, ?_, by simpa using hnone⟩
    rw [List.map_cons, Built.mapSteps, hset, hsteps, h.1.atOnce, h.1.datum, hrepeated, List.append_assoc]
    rfl

theorem makes_map {entries : List (String × Value)} (h : ∀ e ∈ entries, (make e.2).Makes (.ofValue e.2))
    (hkeys : (entries.map Prod.fst).Nodup) :
    (Built.map [] (entries.map fun e => ({ datum := .str e.1 }, make e.2))).Makes (.ofValue (.map entries)) := by
  obtain ⟨steps, hsteps, hnone⟩ := @mapSteps_eq make entries h hkeys [] fun _ _ => rfl
  have hmap : Built.map [] (entries.map fun e => ({ datum := .str e.1 }, make e.2)) =
      .filled (.map (Datum.ofEntries entries)) steps (entries.map fun e => make e.2) := by
    rw [Built.map, List.nil_append, List.isEmpty_nil, hsteps, List.map_map]
    rfl
  rw [hmap]
  refine makes_filled hnone fun b hb => ?_
  obtain ⟨e, he, rfl⟩ := List.mem_map.mp hb
  exact (h e he).faults

end Values

end Yaml

mutual

/-- No key of a map comes twice, and what is written without quotes can be told from its text. -/
def Value.IsReadable : Value → Prop
  | .str _ => True
  | .list items => AreReadable items
  | .map entries => (entries.map Prod.fst).Nodup ∧ HaveReadable entries
  | v => scalarBuilt false (.ofPlain false (scalarText v).toList) (scalarText v) = { datum := .ofValue v }

def AreReadable : List Value → Prop
  | [] => True
  | v :: more => v.IsReadable ∧ AreReadable more

def HaveReadable : List (String × Value) → Prop
  | [] => True
  | (_, v) :: more => v.IsReadable ∧ HaveReadable more

end

theorem isReadable_str (s : String) : (Value.str s).IsReadable := trivial

theorem isReadable_list {items : List Value} : (Value.list items).IsReadable ↔ ∀ v ∈ items, v.IsReadable := by
  change AreReadable items ↔ _
  induction items with
  | nil => simp [AreReadable]
  | cons v items ih => rw [AreReadable, ih, List.forall_mem_cons]

theorem isReadable_map {entries : List (String × Value)} :
    (Value.map entries).IsReadable ↔ (entries.map Prod.fst).Nodup ∧ ∀ e ∈ entries, e.2.IsReadable := by
  have hentries : HaveReadable entries ↔ ∀ e ∈ entries, e.2.IsReadable := by
    induction entries with
    | nil => simp [HaveReadable]
    | cons e entries ih => rw [HaveReadable, ih, List.forall_mem_cons]
  exact and_congr_right fun _ => hentries

theorem isReadable_bool (b : Bool) : (Value.bool b).IsReadable := by
  have htag : ∀ b : Bool, Tag.ofPlain false (scalarText (.bool b)).toList = .bool := by decide +kernel
  simp only [Value.IsReadable, htag]
  cases b <;> rfl

namespace Yaml

theorem makeItems_itemNodes (old : Bool) (items : List Value) :
    makeItems old (itemNodes items) = items.map fun v => v.node.make old := by
  induction items with
  | nil => rfl
  | cons v items ih => rw [itemNodes, makeItems, ih, List.map_cons]

theorem splitEntries_entryNodes (old : Bool) (entries : List (String × Value)) :
    splitEntries (makeEntries old (entryNodes entries)) [] =
      .ok ([], entries.map fun e => ({ datum := .str e.1 }, (e.2.node.make old).built)) := by
  induction entries with
  | nil => rfl
  | cons e entries ih =>
    obtain ⟨key, v⟩ := e
    have hkey : (Node.scalar .str key).make old =
        { tag := .str, text := some key, built := { datum := .str key } } := rfl
    rw [entryNodes, makeEntries, hkey]
    simp only [splitEntries, ih, ok_bind]
    rfl

theorem makes_of_eq {b : Built} {d : Datum} (h : b = { datum := d }) : b.Makes d := by
  subst h
  exact ⟨rfl, by simp⟩

mutual

theorem make_node : ∀ {v : Value}, v.IsReadable → (v.node.make false).built.Makes (.ofValue v)
  | .str s, _ => makes_of_eq rfl
  | .list items, h => by
    have hitems : (Built.list (items.map fun v => (v.node.make false).built)).Makes (.ofValue (.list items)) :=
      makes_list (make_items items h)
    rw [Value.node, Node.make, makeItems_itemNodes, sequenceBuilt, List.map_map]
    exact hitems
  | .map entries, h => by
    have hentries : (Built.map [] (entries.map fun e => ({ datum := .str e.1 }, (e.2.node.make false).built))).Makes
        (.ofValue (.map entries)) :=
      @makes_map (fun v => (v.node.make false).built) entries (make_entries entries h.2) h.1
    rw [Value.node, Node.make, mappingBuilt, splitEntries_entryNodes]
    exact hentries
  | .null, h | .bool _, h | .int _, h | .float _, h => by
    simp only [Value.node, Node.make]
    simp only [Value.IsReadable] at h
    exact makes_of_eq h

theorem make_items : ∀ (items : List Value), AreReadable items →
    ∀ v ∈ items, (v.node.make false).built.Makes (.ofValue v)
  | [], _ => by simp
  | v :: more, h => List.forall_mem_cons.mpr ⟨make_node h.1, make_items more h.2⟩

theorem make_entries : ∀ (entries : List (String × Value)), HaveReadable entries →
    ∀ e ∈ entries, (e.2.node.make false).built.Makes (.ofValue e.2)
  | [], _ => by simp
  | (_, v) :: more, h => List.forall_mem_cons.mpr ⟨make_node h.1, make_entries more h.2⟩

end

theorem ofYaml_of_tokens {v : Value} {text : String} (htokens : tokensOf text.toList = v.tokens) (h : v.IsReadable) :
    Datum.ofYaml text = .ok (.ofValue v) := by
  have hmade := make_node h
  rw [Datum.ofYaml, document_of_tokens htokens, ok_bind]
  dsimp only
  rw [hmade.first, hmade.datum]
  rfl

end Yaml

end ModuleDocs
