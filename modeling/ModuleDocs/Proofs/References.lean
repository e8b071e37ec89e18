import ModuleDocs.Proofs.Matching
import ModuleDocs.Proofs.Success
import ModuleDocs.Replace

/-! # References to other repositories

By the default rules, a reference in back quotes becomes a link to the repository that it names. A rule goes over the
whole of a text that is written for it (`leads_reference`, `leads_pass`), and over no part of a text of the other kind
(`not_mentions_other`) or of a link, which has no back quotes. The rule for types that pass something through to a
repository has one capture more than the others, in front, so that the link is made of the wrong captures
(`passedLink_repo_eq_iff`). -/
set_option autoImplicit false

namespace ModuleDocs

open Pattern

/-! ## References and links -/

/-- What a reference is to: any repository, or that of a module. -/
inductive ReferenceKind where
  | repo
  | module
deriving DecidableEq

def ReferenceKind.word : ReferenceKind → String
  | .repo => "repo"
  | .module => "module"

/-- What stands in front of the name of a repository in its address. -/
def ReferenceKind.owner : ReferenceKind → String
  | .repo => "globaldatanet/"
  | .module => "globaldatanet/landing-zone-"

/-- A repository, and one of its variables. -/
structure Reference where
  repository : String
  anchor : Option String := none
  repository_ne : repository ≠ ""
  repository_plain : '\x60' ∉ repository.toList ∧ '.' ∉ repository.toList
  anchor_plain : ∀ a ∈ anchor, a ≠ "" ∧ '\x60' ∉ a.toList

def Reference.quoted (ref : Reference) : String :=
  "`" ++ ref.repository ++ ref.anchor.elim "" ("." ++ ·) ++ "`"

def linkTo (owner repository anchor : String) : String :=
  "[" ++ repository ++ "](https://github.com/" ++ owner ++ repository ++ "/README.md#user-content-" ++ anchor ++ ")"

def Reference.link (ref : Reference) (kind : ReferenceKind) : String :=
  linkTo kind.owner ref.repository (ref.anchor.getD "")

theorem Reference.toList_quoted (ref : Reference) :
    ref.quoted.toList =
      '\x60' :: (ref.repository.toList ++ (ref.anchor.elim [] ('.' :: ·.toList) ++ ['\x60'])) := by
  rw [quoted]
  cases ref.anchor <;> simp

/-! ## The trees of the rules -/

def outside (members : List Char) : Node :=
  .repeated (.set { members := members.map fun c => .code c.toNat, negated := true }) 1 none .greedy

def blanks : Node := .repeated (.set { members := [.category .blank false] }) 1 none .greedy

def optionally (n : Node) : Node := .repeated n 0 (some 1) .greedy

/-- A reference in back quotes, with the number of its first capture. -/
def referenceNodes (index : Nat) : List Node :=
  [.char '\x60', .capture index (outside ['\x60', '.']),
    optionally (Node.ofList [.char '.', .capture (index + 1) (outside ['\x60'])]), .char '\x60']

/-- A type that passes something through, where `closing` is what may follow it. -/
def passNodes (closing : Node) : List Node :=
  optionally (Node.ofList ("optional(".toList.map .char)) ::
    ("any".toList.map .char ++ [optionally closing, blanks, .char '#', blanks])

/-- A bracket that closes what was opened before a type. For repositories it is captured. -/
def ReferenceKind.closing : ReferenceKind → Node
  | .repo => .capture 1 (Node.ofList [optionally (.char ':'), .char ')'])
  | .module => .char ')'

/-- The number of captures in front of those of a reference, in types. -/
def ReferenceKind.shift : ReferenceKind → Nat
  | .repo => 1
  | .module => 0

def ReferenceKind.describedPattern (kind : ReferenceKind) : Pattern where
  node := Node.ofList ((kind.word ++ " ").toList.map .char ++ referenceNodes 1)
  captures := 2

def ReferenceKind.passedPattern (kind : ReferenceKind) : Pattern where
  node := Node.ofList
    (passNodes kind.closing ++ (("passthrough to " ++ kind.word ++ " ").toList.map .char ++
      referenceNodes (kind.shift + 1)))
  captures := kind.shift + 2

/-- The pieces of a link that is made of the first two captures. -/
def linkPieces (front : String) (kind : ReferenceKind) : List Piece :=
  let chars := fun cs : String => cs.toList.map fun c => Piece.text [c]
  chars (front ++ "[") ++ .capture 1 :: (chars ("](https://github.com/" ++ kind.owner) ++
    .capture 1 :: (chars "/README.md#user-content-" ++ .capture 2 :: chars ")"))

/-! ## The rules, read -/

def linkTemplate (front : String) (kind : ReferenceKind) : String :=
  front ++ "[\\1](https://github.com/" ++ kind.owner ++ "\\1/README.md#user-content-\\2)"

def ReferenceKind.describedRule (kind : ReferenceKind) : ReplaceRule where
  pattern := kind.word ++ " " ++ referencePattern
  replace := linkTemplate "" kind
  column := .description

def ReferenceKind.passedRule (kind : ReferenceKind) : ReplaceRule where
  pattern := "(?:optional\\()?any(" ++ (if kind = .repo then ":?" else "?:") ++ "\\))?\\s+#\\s+passthrough to " ++
    kind.word ++ " " ++ referencePattern
  replace := linkTemplate "See " kind
  column := .type

/-- The default rules with their variables filled in. -/
def filledDefaults : List ReplaceRule :=
  [ReferenceKind.describedRule .repo, ReferenceKind.describedRule .module, ReferenceKind.passedRule .repo,
    ReferenceKind.passedRule .module]

theorem toOption_filled_defaultRules : (defaultRules.mapM ReplaceRule.filled).toOption = some filledDefaults := by
  decide +kernel

theorem eq_ok_of_toOption {α : Type} {x : Except Error α} {a : α} (h : x.toOption = some a) : x = .ok a := by
  cases x with
  | error e => cases h
  | ok b => rw [Option.some.inj h]

/-! ## Texts that the rules leave alone -/

/-- A reference of a kind stands in a text: a word, a blank, and something in back quotes. -/
def Mentions (kind : ReferenceKind) (x : List Char) : Prop :=
  ∃ before inside after, x = before ++ ((kind.word ++ " ").toList ++ '\x60' :: (inside ++ '\x60' :: after))

theorem exists_of_spells_reference {index : Nat} {x : List Char} (h : (Node.ofList (referenceNodes index)).Spells x) :
    ∃ inside, x = '\x60' :: (inside ++ ['\x60']) := by
  obtain ⟨first, x, hfirst, hx, rfl⟩ := Node.spells_ofList_cons.mp h
  obtain ⟨inside, last, hlast, rfl⟩ := Node.exists_spells_of_append [_, _] hx
  have hfirst : first = ['\x60'] := hfirst
  have hlast : last = ['\x60'] := hlast
  exact ⟨inside, by rw [hfirst, hlast]; rfl⟩

theorem mentions_of_spells_described {kind : ReferenceKind} {x : List Char} (h : kind.describedPattern.node.Spells x) :
    Mentions kind x := by
  obtain ⟨z, hz, rfl⟩ := Node.spells_chars.mp h
  obtain ⟨inside, rfl⟩ := exists_of_spells_reference hz
  exact ⟨[], inside, [], rfl⟩

theorem mentions_of_spells_passed {kind : ReferenceKind} {x : List Char} (h : kind.passedPattern.node.Spells x) :
    Mentions kind x := by
  obtain ⟨y, z, hz, rfl⟩ := Node.exists_spells_of_append _ h
  obtain ⟨z, hz', rfl⟩ := Node.spells_chars.mp hz
  obtain ⟨inside, rfl⟩ := exists_of_spells_reference hz'
  refine ⟨y ++ "passthrough to ".toList, inside, [], ?_⟩
  simp only [String.toList_append, List.append_assoc]

theorem Mentions.of_isPart {kind : ReferenceKind} {x text : List Char} (h : Mentions kind x) (hx : x <:+: text) :
    Mentions kind text := by
  obtain ⟨before, inside, after, rfl⟩ := h
  obtain ⟨front, back, rfl⟩ := hx
  refine ⟨front ++ before, inside, after ++ back, ?_⟩
  simp only [List.append_assoc, List.cons_append]

theorem Mentions.quote_mem {kind : ReferenceKind} {text : List Char} (h : Mentions kind text) : '\x60' ∈ text := by
  obtain ⟨before, inside, after, rfl⟩ := h
  simp

theorem takeWhile_append_quote {front : List Char} (h : '\x60' ∉ front) (rest : List Char) :
    (front ++ '\x60' :: rest).takeWhile (· ≠ '\x60') = front := by
  have hfront : ∀ c ∈ front, decide (c ≠ '\x60') = true := by
    intro c hc
    rw [decide_eq_true_eq]
    rintro rfl
    exact h hc
  rw [List.takeWhile_append_of_pos hfront, List.takeWhile_cons_of_neg (by simp), List.append_nil]

/-- With no more than two quotes in a text, the kind of a reference is said by what stands before the first. -/
theorem Mentions.suffix {kind : ReferenceKind} {front inside : List Char} (hfront : '\x60' ∉ front)
    (hinside : '\x60' ∉ inside) (h : Mentions kind (front ++ '\x60' :: (inside ++ ['\x60']))) :
    (kind.word ++ " ").toList <:+ front := by
  obtain ⟨before, inside', after, heq⟩ := h
  have hcount := congrArg (List.count '\x60') heq
  simp only [List.count_append, List.count_cons_self, List.count_eq_zero.mpr hfront, List.count_eq_zero.mpr hinside,
    List.count_nil] at hcount
  have hbefore : '\x60' ∉ before ++ (kind.word ++ " ").toList := by
    rw [List.mem_append, not_or]
    exact ⟨List.count_eq_zero.mp (by omega), by cases kind <;> decide⟩
  have htake := congrArg (List.takeWhile (· ≠ '\x60')) heq
  rw [takeWhile_append_quote hfront, ← List.append_assoc, takeWhile_append_quote hbefore] at htake
  exact ⟨before, htake.symm⟩

/-! ## Texts that the rules go over -/

theorem has_outside {members : List Char} {c : Char} :
    CharSet.has { members := members.map fun c => .code c.toNat, negated := true } c = true ↔ c ∉ members := by
  have hcode : ∀ d : Char, (c.toNat == d.toNat) = decide (c = d) := fun d => by
    rw [Bool.eq_iff_iff, beq_iff_eq, decide_eq_true_eq, Char.toNat_inj]
  have hany : CharSet.has { members := members.map fun c => .code c.toNat, negated := true } c =
      !members.any fun d => decide (c = d) := by
    simp [CharSet.has, Member.has, List.any_map, Function.comp_def, hcode]
  rw [hany, Bool.not_eq_true', List.any_eq_false]
  exact ⟨fun h hc => h c hc (decide_eq_true rfl), fun h d hd heq => h (of_decide_eq_true heq ▸ hd)⟩

section Leads
variable {members done rest x : List Char} {captured : List (Nat × List Char)}

theorem leads_outside (hx : ∀ c ∈ x, c ∉ members) (hne : x ≠ []) {c : Char} (hc : c ∈ members) :
    (outside members).Leads (.on done (x ++ c :: rest) captured) (.on (done ++ x) (c :: rest) captured) := by
  refine Node.leads_set (fun c hc => has_outside.mpr (hx c hc)) ?_ hne
  rintro d hd
  obtain rfl := Option.some.inj hd
  rw [← Bool.not_eq_true, has_outside]
  exact fun h => h hc

/-- The captures that a reference makes, latest first. -/
def Reference.captures (ref : Reference) (index : Nat) : List (Nat × List Char) :=
  ref.anchor.elim [] (fun a => [(index + 1, a.toList)]) ++ [(index, ref.repository.toList)]

theorem leads_reference (ref : Reference) (index : Nat) :
    (Node.ofList (referenceNodes index)).Leads (.on done (ref.quoted.toList ++ rest) captured)
      (.on (done ++ ref.quoted.toList) rest (ref.captures index ++ captured)) := by
  have hrepository : ∀ c ∈ ref.repository.toList, c ∉ ['\x60', '.'] := by
    rintro c hc hmem
    obtain rfl | hmem := List.mem_cons.mp hmem
    · exact ref.repository_plain.1 hc
    · obtain rfl := List.mem_singleton.mp hmem
      exact ref.repository_plain.2 hc
  have hne : ref.repository.toList ≠ [] := fun h => ref.repository_ne (String.toList_eq_nil_iff.mp h)
  rw [ref.toList_quoted, Reference.captures]
  cases hanchor : ref.anchor with
  | none =>
    have hpoint : ∀ x, (Node.ofList [.char '.', .capture (index + 1) (outside ['\x60'])]).Spells x →
        ∃ d more, d ≠ '\x60' ∧ x = d :: more := by
      intro x hx
      obtain ⟨y, z, hy, -, rfl⟩ := Node.spells_ofList_cons.mp hx
      have hy : y = ['.'] := hy
      exact ⟨'.', z, by decide, by rw [hy]; rfl⟩
    have hdone : done ++ '\x60' :: (ref.repository.toList ++ ['\x60']) =
        done ++ ['\x60'] ++ ref.repository.toList ++ ['\x60'] := by simp
    simp only [Option.elim_none, List.nil_append, List.cons_append, List.append_assoc]
    rw [hdone]
    refine (Node.leads_char _).ofList_cons ?_
    refine ((leads_outside hrepository hne (by simp)).capture index).ofList_cons ?_
    refine (Node.leads_absent hpoint).ofList_cons ?_
    exact (Node.leads_char _).ofList_cons Node.leads_ofList_nil
  | some a =>
    obtain ⟨ha, hplain⟩ := ref.anchor_plain a hanchor
    have hanchor : ∀ c ∈ a.toList, c ∉ ['\x60'] := by
      rintro c hc hmem
      obtain rfl := List.mem_singleton.mp hmem
      exact hplain hc
    have hne' : a.toList ≠ [] := fun h => ha (String.toList_eq_nil_iff.mp h)
    have hdone : done ++ '\x60' :: (ref.repository.toList ++ '.' :: (a.toList ++ ['\x60'])) =
        done ++ ['\x60'] ++ ref.repository.toList ++ ['.'] ++ a.toList ++ ['\x60'] := by simp
    simp only [Option.elim_some, List.nil_append, List.cons_append, List.append_assoc]
    rw [hdone]
    refine (Node.leads_char _).ofList_cons ?_
    refine ((leads_outside hrepository hne (by simp)).capture index).ofList_cons ?_
    refine Node.Leads.ofList_cons (Node.Leads.optional ((Node.leads_char _).ofList_cons
      (((leads_outside hanchor hne' (by simp)).capture (index + 1)).ofList_cons Node.leads_ofList_nil))) ?_
    exact (Node.leads_char _).ofList_cons Node.leads_ofList_nil

theorem leads_blank (h : ∀ c ∈ rest.head?, Text.isBlank c = false) :
    blanks.Leads (.on done (' ' :: rest) captured) (.on (done ++ [' ']) rest captured) := by
  have hhas : ∀ c, CharSet.has { members := [.category .blank false] } c = Text.isBlank c := fun c => by
    simp [CharSet.has, Member.has, Category.has, Char.ofNat_toNat]
  refine @Node.leads_set done rest [' '] captured _ ?_ (fun c hc => by rw [hhas, h c hc]) (by simp)
  intro c hc
  rw [List.mem_singleton.mp hc, hhas]
  rfl

/-- What the bracket that closes a type leaves among the captures. -/
def ReferenceKind.closed : ReferenceKind → List (Nat × List Char)
  | .repo => [(1, [')'])]
  | .module => []

theorem leads_closing (kind : ReferenceKind) :
    kind.closing.Leads (.on done (')' :: rest) captured) (.on (done ++ [')']) rest (kind.closed ++ captured)) := by
  cases kind with
  | repo =>
    have hcolon : ∀ x, (Node.char ':').Spells x → ∃ d more, d ≠ ')' ∧ x = d :: more := fun x hx =>
      ⟨':', [], by decide, hx⟩
    have hbody := (@Node.leads_absent _ done rest captured _ hcolon).ofList_cons
      ((Node.leads_char ')').ofList_cons Node.leads_ofList_nil)
    exact @Node.Leads.capture _ done rest [')'] captured captured hbody 1
  | module => exact Node.leads_char ')'

theorem exists_of_spells_closing {kind : ReferenceKind} (h : kind.closing.Spells x) :
    ∃ d more, d ≠ ' ' ∧ x = d :: more := by
  cases kind with
  | repo =>
    obtain ⟨y, z, ⟨parts, -, hparts, rfl⟩, hz, rfl⟩ := Node.spells_ofList_cons.mp h
    cases parts with
    | nil => exact ⟨')', [], by decide, hz⟩
    | cons part parts =>
      have hpart : part = [':'] := hparts part List.mem_cons_self
      exact ⟨':', parts.flatten ++ z, by decide, by rw [hpart]; rfl⟩
  | module => exact ⟨')', [], by decide, h⟩

/-- A type that passes something through, as it is written; it may be optional. -/
def passedType (wrapped : Bool) : String := if wrapped then "optional(any)" else "any"

theorem leads_pass (kind : ReferenceKind) (wrapped : Bool) (hrest : ∀ c ∈ rest.head?, Text.isBlank c = false)
    {more : List Node} {p' : Place}
    (h : (Node.ofList more).Leads
      (.on ((passedType wrapped).toList ++ [' ', '#', ' ']) rest (if wrapped then kind.closed else [])) p') :
    (Node.ofList (passNodes kind.closing ++ more)).Leads
      (.on [] ((passedType wrapped).toList ++ ' ' :: '#' :: ' ' :: rest) []) p' := by
  have htail : ∀ done captured, (Node.ofList more).Leads (.on (done ++ [' ', '#', ' ']) rest captured) p' →
      (Node.ofList ([blanks, .char '#', blanks] ++ more)).Leads (.on done (' ' :: '#' :: ' ' :: rest) captured) p' := by
    intro done captured h
    have hdone : done ++ [' ', '#', ' '] = done ++ [' '] ++ ['#'] ++ [' '] := by simp
    have hsign : ∀ c ∈ ('#' :: ' ' :: rest).head?, Text.isBlank c = false := by
      intro c hc
      obtain rfl := Option.some.inj hc
      rfl
    rw [hdone] at h
    exact (leads_blank hsign).ofList_cons ((Node.leads_char '#').ofList_cons ((leads_blank hrest).ofList_cons h))
  have hword : "optional(".toList.map Node.char = "optional(".toList.map Node.char ++ [] := (List.append_nil _).symm
  rw [passNodes, List.cons_append, List.append_assoc]
  cases wrapped with
  | false =>
    have hopen : ∀ x, (Node.ofList ("optional(".toList.map Node.char)).Spells x →
        ∃ d more, d ≠ 'a' ∧ x = d :: more := by
      intro x hx
      rw [hword] at hx
      obtain ⟨z, -, rfl⟩ := Node.spells_chars.mp hx
      exact ⟨'o', "ptional(".toList ++ z, by decide, rfl⟩
    refine (Node.leads_absent hopen).ofList_cons (Node.leads_chars ?_)
    exact (Node.leads_absent fun x hx => exists_of_spells_closing hx).ofList_cons (htail _ _ h)
  | true =>
    have hopen : (Node.ofList ("optional(".toList.map Node.char)).Leads
        (.on [] ("optional(".toList ++ ("any".toList ++ ')' :: ' ' :: '#' :: ' ' :: rest)) [])
        (.on "optional(".toList ("any".toList ++ ')' :: ' ' :: '#' :: ' ' :: rest) []) := by
      rw [hword]
      exact Node.leads_chars Node.leads_ofList_nil
    refine hopen.optional.ofList_cons (Node.leads_chars ?_)
    refine (leads_closing kind).optional.ofList_cons (htail _ _ ?_)
    rw [List.append_nil]
    exact h

end Leads

/-! ## What becomes of a text -/

theorem expand_linkPieces (front : String) (kind : ReferenceKind) (m : Match) :
    String.ofList ((linkPieces front kind).flatMap (Piece.expand m)) =
      front ++ linkTo kind.owner (String.ofList ((m.capture? 1).getD [])) (String.ofList ((m.capture? 2).getD [])) := by
  have hchars : ∀ cs : List Char, (cs.map fun c => Piece.text [c]).flatMap (Piece.expand m) = cs := fun cs => by
    rw [List.flatMap_map]
    exact List.flatMap_singleton' cs
  rw [← String.toList_inj, String.toList_ofList, linkPieces, linkTo]
  simp only [List.flatMap_append, List.flatMap_cons, hchars, Piece.expand, String.toList_append, String.toList_ofList,
    List.append_assoc]

/-- A rule whose pattern and replacement are read as given. -/
structure ReplaceRule.ReadAs (rule : ReplaceRule) (pattern : Pattern) (pieces : List Piece) : Prop where
  node : read? rule.pattern = some pattern
  link : (pattern.readReplacement rule.replace.toList).toOption = some pieces

theorem ReplaceRule.ReadAs.substitute_eq {rule : ReplaceRule} {pattern : Pattern} {pieces : List Piece}
    (h : rule.ReadAs pattern pieces) (text : String) :
    substitute rule.pattern rule.replace text = .ok (String.ofList (pattern.replaceIn pieces text.toList)) := by
  rw [substitute, eq_ok_of_toOption h.node, ok_bind, eq_ok_of_toOption h.link]
  rfl

/-- Of two rules, one for each kind of reference, the one for the other kind does nothing. -/
theorem substitute_kinds {rule : ReferenceKind → ReplaceRule} {pattern : ReferenceKind → Pattern}
    {pieces : ReferenceKind → List Piece} (hread : ∀ kind, (rule kind).ReadAs (pattern kind) (pieces kind))
    (hspells : ∀ kind x, (pattern kind).node.Spells x → Mentions kind x) {kind : ReferenceKind} {text out : String}
    (hout : String.ofList ((pattern kind).replaceIn (pieces kind) text.toList) = out)
    (hother : ∀ other, other ≠ kind → ¬ Mentions other text.toList ∧ ¬ Mentions other out.toList) :
    (substitute (rule .repo).pattern (rule .repo).replace text >>= fun text =>
      substitute (rule .module).pattern (rule .module).replace text) = .ok out := by
  have hkeep : ∀ other (t : String), ¬ Mentions other t.toList →
      String.ofList ((pattern other).replaceIn (pieces other) t.toList) = t := by
    intro other t ht
    rw [replaceIn_of_absent fun x hx hspelled => ht ((hspells other x hspelled).of_isPart hx), String.ofList_toList]
  rw [(hread .repo).substitute_eq, ok_bind, (hread .module).substitute_eq]
  cases kind with
  | repo => rw [hout, hkeep .module out (hother .module (by decide)).2]
  | module => rw [hkeep .repo text (hother .repo (by decide)).1, hout]

theorem readAs_describedRule (kind : ReferenceKind) :
    kind.describedRule.ReadAs kind.describedPattern (linkPieces "" kind) := by
  cases kind <;> exact ⟨by decide +kernel, by decide +kernel⟩

theorem readAs_passedRule (kind : ReferenceKind) :
    kind.passedRule.ReadAs kind.passedPattern (linkPieces "See " kind) := by
  cases kind <;> exact ⟨by decide +kernel, by decide +kernel⟩

/-! ## References in texts -/

section Reference
variable (ref : Reference)

theorem Reference.lookup_repository (index : Nat) (captured : List (Nat × List Char)) :
    (ref.captures index ++ captured).lookup index = some ref.repository.toList := by
  have hne : (index == index + 1) = false := by simp
  rw [captures]
  cases ref.anchor <;> simp [List.lookup_cons, hne]

theorem Reference.lookup_anchor (index : Nat) :
    ((ref.captures index).lookup (index + 1)).getD [] = (ref.anchor.getD "").toList := by
  have hne : (index + 1 == index) = false := by simp
  rw [captures]
  cases ref.anchor <;> simp [List.lookup_cons, hne]

theorem Reference.lookup_earlier {index earlier : Nat} (h : earlier < index) (captured : List (Nat × List Char)) :
    (ref.captures index ++ captured).lookup earlier = captured.lookup earlier := by
  have hne : (earlier == index) = false := by simpa using Nat.ne_of_lt h
  have hne' : (earlier == index + 1) = false := by simpa using Nat.ne_of_lt (Nat.lt_succ_of_lt h)
  rw [captures]
  cases ref.anchor <;> simp [List.lookup_cons, hne, hne']

theorem Reference.exists_quoted : ∃ inside, ref.quoted.toList = '\x60' :: (inside ++ ['\x60']) ∧ '\x60' ∉ inside := by
  refine ⟨ref.repository.toList ++ ref.anchor.elim [] ('.' :: ·.toList), ?_, ?_⟩
  · rw [ref.toList_quoted, List.append_assoc]
  · rw [List.mem_append, not_or]
    refine ⟨ref.repository_plain.1, ?_⟩
    cases hanchor : ref.anchor with
    | none => simp
    | some a => simpa using (ref.anchor_plain a hanchor).2

theorem not_mentions_other {kind other : ReferenceKind} (hother : other ≠ kind) {front : List Char}
    (hfront : '\x60' ∉ front) :
    ¬ Mentions other (front ++ ((kind.word ++ " ").toList ++ ref.quoted.toList)) := by
  obtain ⟨inside, hquoted, hinside⟩ := ref.exists_quoted
  have hword : '\x60' ∉ (kind.word ++ " ").toList := by cases kind <;> decide
  have hbefore : '\x60' ∉ front ++ (kind.word ++ " ").toList := by
    rw [List.mem_append, not_or]
    exact ⟨hfront, hword⟩
  rw [hquoted, ← List.append_assoc]
  intro hmentions
  have hsuffix := hmentions.suffix hbefore hinside
  have hown := List.suffix_append front (kind.word ++ " ").toList
  cases kind <;> cases other
  · exact hother rfl
  · exact absurd (List.suffix_of_suffix_length_le hown hsuffix (by decide)) (by decide)
  · exact absurd (List.suffix_of_suffix_length_le hsuffix hown (by decide)) (by decide)
  · exact hother rfl

theorem quote_notMem_linkTo (kind : ReferenceKind) {repository anchor : String}
    (hrepository : '\x60' ∉ repository.toList) (hanchor : '\x60' ∉ anchor.toList) :
    '\x60' ∉ (linkTo kind.owner repository anchor).toList := by
  have howner : '\x60' ∉ kind.owner.toList := by cases kind <;> decide
  simp [linkTo, howner, hrepository, hanchor]

theorem Reference.quote_notMem_anchor : '\x60' ∉ (ref.anchor.getD "").toList := by
  cases hanchor : ref.anchor with
  | none => simp
  | some a => exact (ref.anchor_plain a hanchor).2

theorem Reference.quote_notMem_link (kind : ReferenceKind) : '\x60' ∉ (ref.link kind).toList :=
  quote_notMem_linkTo kind ref.repository_plain.1 ref.quote_notMem_anchor

theorem Reference.replaceIn_described (kind : ReferenceKind) :
    String.ofList (kind.describedPattern.replaceIn (linkPieces "" kind) (kind.word ++ " " ++ ref.quoted).toList) =
      ref.link kind := by
  have hleads : kind.describedPattern.node.Leads (.on [] (kind.word ++ " " ++ ref.quoted).toList [])
      (.on (kind.word ++ " " ++ ref.quoted).toList [] (ref.captures 1 ++ [])) := by
    have hreference := @leads_reference (kind.word ++ " ").toList [] [] ref 1
    rw [List.append_nil] at hreference
    rw [String.toList_append]
    exact Node.leads_chars hreference
  have hempty : ¬ kind.describedPattern.node.Spells [] := fun h =>
    absurd (mentions_of_spells_described h).quote_mem List.not_mem_nil
  rw [replaceIn_whole hleads hempty, expand_linkPieces, capture?_on (show 1 ≠ 0 by decide),
    capture?_on (show 2 ≠ 0 by decide), ref.lookup_repository, List.append_nil, ref.lookup_anchor, Option.getD_some,
    String.ofList_toList, String.ofList_toList, String.empty_append, Reference.link]

/-- The link for a type. For a repository it is made of what may close the type, and of the repository. -/
def Reference.passedLink (ref : Reference) (wrapped : Bool) : ReferenceKind → String
  | .repo => linkTo ReferenceKind.repo.owner (if wrapped then ")" else "") ref.repository
  | .module => ref.link .module

theorem Reference.quote_notMem_passedLink (wrapped : Bool) (kind : ReferenceKind) :
    '\x60' ∉ (ref.passedLink wrapped kind).toList := by
  cases kind with
  | repo => exact quote_notMem_linkTo .repo (by cases wrapped <;> decide) ref.repository_plain.1
  | module => exact ref.quote_notMem_link .module

def Reference.passedText (ref : Reference) (wrapped : Bool) (kind : ReferenceKind) : String :=
  passedType wrapped ++ " # passthrough to " ++ kind.word ++ " " ++ ref.quoted

theorem Reference.replaceIn_passed (kind : ReferenceKind) (wrapped : Bool) :
    String.ofList (kind.passedPattern.replaceIn (linkPieces "See " kind) (ref.passedText wrapped kind).toList) =
      "See " ++ ref.passedLink wrapped kind := by
  have htext : (ref.passedText wrapped kind).toList = (passedType wrapped).toList ++ ' ' :: '#' :: ' ' ::
      (("passthrough to " ++ kind.word ++ " ").toList ++ ref.quoted.toList) := by
    simp [Reference.passedText]
  have hdone : (ref.passedText wrapped kind).toList = (passedType wrapped).toList ++ [' ', '#', ' '] ++
      ("passthrough to " ++ kind.word ++ " ").toList ++ ref.quoted.toList := by
    simp [Reference.passedText]
  have hleads : kind.passedPattern.node.Leads (.on [] (ref.passedText wrapped kind).toList [])
      (.on (ref.passedText wrapped kind).toList []
        (ref.captures (kind.shift + 1) ++ if wrapped then kind.closed else [])) := by
    have hreference := @leads_reference
      ((passedType wrapped).toList ++ [' ', '#', ' '] ++ ("passthrough to " ++ kind.word ++ " ").toList) []
      (if wrapped then kind.closed else []) ref (kind.shift + 1)
    have hrest : ∀ c ∈ (("passthrough to " ++ kind.word ++ " ").toList ++ ref.quoted.toList).head?,
        Text.isBlank c = false := by
      intro c hc
      simp at hc
      rw [← hc]
      rfl
    rw [List.append_nil, ← hdone] at hreference
    have hpass := leads_pass kind wrapped hrest (Node.leads_chars hreference)
    rwa [← htext] at hpass
  have hempty : ¬ kind.passedPattern.node.Spells [] := fun h =>
    absurd (mentions_of_spells_passed h).quote_mem List.not_mem_nil
  rw [replaceIn_whole hleads hempty, expand_linkPieces, capture?_on (show 1 ≠ 0 by decide),
    capture?_on (show 2 ≠ 0 by decide)]
  cases kind with
  | repo =>
    rw [ReferenceKind.shift, ref.lookup_repository, ref.lookup_earlier (Nat.lt_succ_self 1), Option.getD_some,
      String.ofList_toList, Reference.passedLink]
    cases wrapped <;> rfl
  | module =>
    have hnone : (if wrapped then ReferenceKind.module.closed else []) = [] := by cases wrapped <;> rfl
    rw [ReferenceKind.shift, ref.lookup_repository, hnone, List.append_nil, ref.lookup_anchor, Option.getD_some,
      String.ofList_toList, String.ofList_toList, Reference.passedLink, Reference.link]

end Reference

section Settings
variable {s : Settings} (hs : s.IsChecked) (hrules : s.replace = defaultRules)
include hs hrules

theorem Settings.filledRules_default : s.filledRules = .ok filledDefaults := by
  rw [filledRules, s.ensure_of_isChecked hs, ok_bind, hrules, eq_ok_of_toOption toOption_filled_defaultRules]

theorem Settings.replaceIn_column {column : TextColumn} (rule : ReferenceKind → ReplaceRule)
    (hfilter : filledDefaults.filter (·.column = column) = [rule .repo, rule .module]) (text : String) :
    s.replaceIn column text = (substitute (rule .repo).pattern (rule .repo).replace text >>= fun text =>
      substitute (rule .module).pattern (rule .module).replace text) := by
  rw [replaceIn, filledRules_default hs hrules, ok_bind]
  dsimp only
  rw [hfilter]
  simp only [List.foldlM_cons, List.foldlM_nil, bind_pure]

theorem Settings.replaceIn_described (ref : Reference) (kind : ReferenceKind) :
    s.replaceIn .description (kind.word ++ " " ++ ref.quoted) = .ok (ref.link kind) := by
  have hcolumn : filledDefaults.filter (·.column = .description) =
      [ReferenceKind.describedRule .repo, ReferenceKind.describedRule .module] := rfl
  rw [replaceIn_column hs hrules _ hcolumn]
  refine substitute_kinds readAs_describedRule (fun _ _ => mentions_of_spells_described)
    (ref.replaceIn_described kind) ?_
  intro other hother
  constructor
  · rw [String.toList_append]
    exact not_mentions_other ref hother List.not_mem_nil
  · exact fun h => ref.quote_notMem_link kind h.quote_mem

theorem Settings.replaceIn_passed (ref : Reference) (kind : ReferenceKind) (wrapped : Bool) :
    s.replaceIn .type (ref.passedText wrapped kind) = .ok ("See " ++ ref.passedLink wrapped kind) := by
  have hcolumn : filledDefaults.filter (·.column = .type) =
      [ReferenceKind.passedRule .repo, ReferenceKind.passedRule .module] := rfl
  rw [replaceIn_column hs hrules _ hcolumn]
  refine substitute_kinds readAs_passedRule (fun _ _ => mentions_of_spells_passed)
    (ref.replaceIn_passed kind wrapped) ?_
  intro other hother
  constructor
  · have htext : (ref.passedText wrapped kind).toList = (passedType wrapped ++ " # passthrough to ").toList ++
        ((kind.word ++ " ").toList ++ ref.quoted.toList) := by
      simp [Reference.passedText]
    rw [htext]
    exact not_mentions_other ref hother (by cases wrapped <;> decide)
  · intro h
    have hmem := h.quote_mem
    rw [String.toList_append, List.mem_append] at hmem
    exact hmem.elim (fun h => absurd h (by decide)) (ref.quote_notMem_passedLink wrapped kind)

end Settings

theorem toList_linkTo (owner repository anchor : String) :
    (linkTo owner repository anchor).toList = '[' :: (repository.toList ++ ']' :: '(' ::
      (("https://github.com/" ++ owner).toList ++ (repository.toList ++ ("/README.md#user-content-".toList ++
        (anchor.toList ++ [')']))))) := by
  simp [linkTo]

/-- The link that is made for a repository is the right one only if all its parts are closing brackets. -/
theorem passedLink_repo_eq_iff (ref : Reference) (wrapped : Bool) :
    ref.passedLink wrapped .repo = ref.link .repo ↔ wrapped = true ∧ ref.repository = ")" ∧ ref.anchor = some ")" := by
  constructor
  · intro h
    have hlists := congrArg String.toList h
    rw [Reference.passedLink, Reference.link, toList_linkTo, toList_linkTo, List.cons_inj_right] at hlists
    have hpos := List.length_pos_iff.mpr fun h => ref.repository_ne (String.toList_eq_nil_iff.mp h)
    have hlen := congrArg List.length hlists
    simp only [List.length_append, List.length_cons, List.length_nil] at hlen
    cases wrapped with
    | false =>
      simp only [Bool.false_eq_true, if_false, String.toList_empty, List.length_nil] at hlen
      omega
    | true =>
      have hone : (if true then ")" else "").toList = [')'] := rfl
      rw [hone] at hlists hlen
      rw [List.length_singleton] at hlen
      obtain ⟨c, rest, hrest⟩ := List.exists_cons_of_ne_nil (List.length_pos_iff.mp hpos)
      rw [hrest] at hlists hlen
      cases rest with
      | nil =>
        obtain ⟨hc, hmore⟩ := List.cons.inj hlists
        rw [← hc] at hmore hrest
        have hend := (List.cons.inj (List.cons.inj hmore).2).2
        have hanchor := List.append_cancel_right (List.append_cancel_left (List.append_cancel_left
          (List.append_cancel_left hend)))
        refine ⟨rfl, String.toList_inj.mp hrest, ?_⟩
        cases hsome : ref.anchor with
        | none =>
          rw [hsome] at hanchor
          cases hanchor
        | some a =>
          rw [hsome] at hanchor
          exact congrArg some (String.toList_inj.mp hanchor.symm)
      | cons d rest =>
        -- The brackets of the address would stand at two places.
        obtain rfl : rest = [] := by
          rw [← List.length_eq_zero_iff]
          simp only [List.length_cons] at hlen
          omega
        have hthird := (List.cons.inj (List.cons.inj (List.cons.inj hlists).2).2).1
        exact absurd hthird (by decide)
  · rintro ⟨rfl, hrepository, hanchor⟩
    rw [Reference.passedLink, Reference.link, hrepository, hanchor]
    rfl

/-- By the default rules, every reference in a description becomes a link to what it names. In a type it does so if it
is to a module; a link to a repository is right only if it is made of closing brackets. -/
theorem replaceIn_reference_iff {s : Settings} (hs : s.IsChecked) (hrules : s.replace = defaultRules) (ref : Reference)
    (kind : ReferenceKind) (wrapped : Bool) :
    s.replaceIn .description (kind.word ++ " " ++ ref.quoted) = .ok (ref.link kind) ∧
      (s.replaceIn .type (passedType wrapped ++ " # passthrough to " ++ kind.word ++ " " ++ ref.quoted) =
          .ok ("See " ++ ref.link kind) ↔
        kind = .module ∨ wrapped = true ∧ ref.repository = ")" ∧ ref.anchor = some ")") := by
  refine ⟨Settings.replaceIn_described hs hrules ref kind, ?_⟩
  have hpassed := Settings.replaceIn_passed hs hrules ref kind wrapped
  rw [Reference.passedText] at hpassed
  rw [hpassed, Except.ok.injEq]
  cases kind with
  | repo =>
    rw [String.append_right_inj, passedLink_repo_eq_iff]
    simp
  | module => exact iff_of_true rfl (.inl rfl)

/-- A reference whose repository and variable have brackets, points and blanks. -/
def oddReference : Reference where
  repository := "a ](b"
  anchor := some ".x y)"
  repository_ne := by decide
  repository_plain := by decide
  anchor_plain := by
    intro a ha
    obtain rfl := Option.some.inj ha
    decide

theorem replaceIn_reference_odd :
    ({} : Settings).IsChecked ∧ ({} : Settings).replace = defaultRules ∧
      ({} : Settings).replaceIn .description (ReferenceKind.repo.word ++ " " ++ oddReference.quoted) =
        .ok (oddReference.link .repo) ∧
      ({} : Settings).replaceIn .type
          (passedType true ++ " # passthrough to " ++ ReferenceKind.module.word ++ " " ++ oddReference.quoted) =
        .ok ("See " ++ oddReference.link .module) := by
  have hs : ({} : Settings).IsChecked := rfl
  exact ⟨hs, rfl, (replaceIn_reference_iff hs rfl oddReference .repo true).1,
    (replaceIn_reference_iff hs rfl oddReference .module true).2.mpr (.inl rfl)⟩

def cidrReference : Reference where
  repository := "vpc"
  anchor := some "cidr"
  repository_ne := by decide
  repository_plain := by decide
  anchor_plain := by
    intro a ha
    obtain rfl := Option.some.inj ha
    decide

/-- A type that passes something through to a repository gets a link without the repository. -/
theorem replaceIn_reference_misnumbered :
    ({} : Settings).replaceIn .type "any # passthrough to repo `vpc.cidr`" =
        .ok "See [](https://github.com/globaldatanet//README.md#user-content-vpc)" ∧
      "See " ++ cidrReference.link .repo =
        "See [vpc](https://github.com/globaldatanet/vpc/README.md#user-content-cidr)" := by
  have htext : cidrReference.passedText false .repo = "any # passthrough to repo `vpc.cidr`" := by decide +kernel
  have hlink : "See " ++ cidrReference.passedLink false .repo =
      "See [](https://github.com/globaldatanet//README.md#user-content-vpc)" := by decide +kernel
  have hs : ({} : Settings).IsChecked := rfl
  rw [← htext, ← hlink]
  exact ⟨Settings.replaceIn_passed hs rfl cidrReference .repo false, by decide +kernel⟩

end ModuleDocs
