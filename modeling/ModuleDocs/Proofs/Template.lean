import ModuleDocs.Template

/-! # Failures of templates

Filling in a template fails for a reason of templates and for no other (`fillTemplate_failsAs`). Every function on
templates does, and computations that are made of such ones do (`FailsAs.bind`). -/
set_option autoImplicit false

namespace ModuleDocs

/-- A computation that fails for reasons of one kind only. -/
def FailsAs {α : Type} (kind : Error → Bool) (x : Except Error α) : Prop :=
  ∀ e, x = .error e → kind e = true

section Steps
variable {α β : Type} {kind : Error → Bool}

theorem failsAs_ok (a : α) : FailsAs kind (.ok a) := by
  intro e h
  cases h

theorem failsAs_pure (a : α) : FailsAs kind (pure a) := failsAs_ok a

theorem failsAs_error {e : Error} (h : kind e = true) : FailsAs kind (.error e : Except Error α) := by
  intro e' h'
  cases h'
  exact h

theorem FailsAs.bind {x : Except Error α} {f : α → Except Error β} (hx : FailsAs kind x)
    (hf : ∀ a, FailsAs kind (f a)) : FailsAs kind (x >>= f) := by
  cases x with
  | error e => exact failsAs_error (hx e rfl)
  | ok a => exact hf a

theorem FailsAs.map {x : Except Error α} (hx : FailsAs kind x) (f : α → β) : FailsAs kind (x.map f) := by
  cases x with
  | error e => exact failsAs_error (hx e rfl)
  | ok a => exact failsAs_ok (f a)

end Steps

/-- The reasons for which a template cannot be filled in. -/
def Error.isOfTemplate : Error → Bool
  | .badTemplate | .unknownField | .positionalField | .unknownAttribute | .badIndex | .badFormat | .tooWide => true
  | _ => false

namespace Template

/-! ## Fields and numbers -/

theorem takeName_failsAs (inBrackets : Bool) (cs : List Char) :
    FailsAs Error.isOfTemplate (takeName inBrackets cs) := by
  induction cs generalizing inBrackets with
  | nil => exact failsAs_error rfl
  | cons c rest ih =>
    rw [takeName]
    split
    · exact (ih _).bind fun _ => failsAs_pure _
    · split
      · exact failsAs_error rfl
      · split
        · exact failsAs_ok _
        · exact (ih _).bind fun _ => failsAs_pure _

theorem takeFormat_failsAs (depth : Nat) (cs : List Char) : FailsAs Error.isOfTemplate (takeFormat depth cs) := by
  induction cs generalizing depth with
  | nil => exact failsAs_error rfl
  | cons c rest ih =>
    rw [takeFormat]
    split
    · exact failsAs_ok _
    · exact (ih _).bind fun _ => failsAs_pure _

theorem readField_failsAs (cs : List Char) : FailsAs Error.isOfTemplate (readField cs) := by
  unfold readField
  refine (takeName_failsAs false cs).bind ?_
  rintro ⟨name, stop, rest⟩
  dsimp only
  split
  · exact failsAs_pure _
  · split
    · exact (takeFormat_failsAs 0 rest).bind fun _ => failsAs_pure _
    · split
      · exact failsAs_pure _
      · exact (takeFormat_failsAs 0 _).bind fun _ => failsAs_pure _
      · exact failsAs_error rfl

theorem takeNumber_failsAs (sum : Nat) (cs : List Char) : FailsAs Error.isOfTemplate (takeNumber sum cs) := by
  induction cs generalizing sum with
  | nil => exact failsAs_ok _
  | cons c rest ih =>
    rw [takeNumber]
    split
    · exact failsAs_ok _
    · split
      · exact failsAs_error rfl
      · exact ih _

theorem number?_failsAs (cs : List Char) : FailsAs Error.isOfTemplate (number? cs) :=
  (takeNumber_failsAs 0 cs).bind fun _ => failsAs_pure _

/-! ## Values -/

theorem member_failsAs (value : Referent) (name : String) : FailsAs Error.isOfTemplate (value.member name) := by
  unfold Referent.member
  split
  · exact failsAs_ok _
  · split
    · dsimp only
      split <;> first | exact failsAs_ok _ | exact failsAs_error rfl
    · exact failsAs_error rfl

theorem part_failsAs (value : Referent) (index : Nat) : FailsAs Error.isOfTemplate (value.part index) := by
  unfold Referent.part
  split
  · split <;> first | exact failsAs_ok _ | exact failsAs_error rfl
  · split <;> first | exact failsAs_ok _ | exact failsAs_error rfl
  · exact failsAs_error rfl

theorem access_failsAs (value : Referent) (cs : List Char) : FailsAs Error.isOfTemplate (access value cs) := by
  fun_induction access value cs with
  | case1 value => exact failsAs_ok _
  | case2 => exact failsAs_error rfl
  | case3 value rest name hname ih => exact (member_failsAs value _).bind ih
  | case4 => exact failsAs_error rfl
  | case5 value rest index hindex ih =>
    refine (number?_failsAs index).bind fun found => ?_
    cases found with
    | some n => exact (part_failsAs value n).bind ih
    | none =>
      dsimp only
      split
      · exact failsAs_error rfl
      · exact failsAs_error rfl
  | case6 => exact failsAs_error rfl

theorem look_failsAs (values : List (String × String)) (name : List Char) :
    FailsAs Error.isOfTemplate (look values name) := by
  refine (number?_failsAs _).bind fun found => ?_
  split
  · exact failsAs_error rfl
  · split
    · exact failsAs_error rfl
    · exact access_failsAs _ _

theorem convert_failsAs (value : Referent) (conversion : Option Char) :
    FailsAs Error.isOfTemplate (convert value conversion) := by
  unfold convert
  split <;> first | exact failsAs_ok _ | exact failsAs_error rfl

/-! ## Formats -/

theorem writeText_failsAs (format value : List Char) : FailsAs Error.isOfTemplate (writeText format value) := by
  have hpad : ∀ (fill : Char) (align : Alignment) (width : Nat) (shown : List Char × List Char),
      FailsAs Error.isOfTemplate (if shown.2 ≠ [] ∧ shown.2 ≠ ['s'] then .error .badTemplate
        else if width > maxWidth then .error .tooWide else .ok (pad fill align width shown.1)) := by
    intro fill align width shown
    split
    · exact failsAs_error rfl
    · split
      · exact failsAs_error rfl
      · exact failsAs_ok _
  unfold writeText
  dsimp only
  refine (takeNumber_failsAs 0 _).bind fun width => ?_
  split
  · refine (takeNumber_failsAs 0 _).bind fun precision => ?_
    split
    · exact failsAs_error rfl
    · exact hpad _ _ _ _
  · exact hpad _ _ _ _

theorem write_failsAs (format : List Char) (value : Referent) : FailsAs Error.isOfTemplate (write format value) := by
  unfold write
  split
  · exact writeText_failsAs _ _
  · split
    · exact failsAs_ok _
    · exact failsAs_error rfl

/-! ## Filling in -/

theorem fillWith_failsAs {expand : List Char → Except Error (List Char)}
    (hexpand : ∀ format, FailsAs Error.isOfTemplate (expand format)) (values : List (String × String)) (fuel : Nat)
    (cs : List Char) : FailsAs Error.isOfTemplate (fillWith expand values fuel cs) := by
  fun_induction fillWith expand values fuel cs with
  | case1 => exact failsAs_ok _
  | case2 => exact failsAs_ok _
  | case3 fuel rest ih => exact ih.bind fun _ => failsAs_pure _
  | case4 fuel rest ih => exact ih.bind fun _ => failsAs_pure _
  | case5 => exact failsAs_error rfl
  | case6 fuel rest hopen hclose hstray ih =>
    refine (readField_failsAs rest).bind fun read => (look_failsAs _ _).bind fun value =>
      (convert_failsAs _ _).bind fun value => ?_
    have hrest : ∀ format, FailsAs Error.isOfTemplate (write format value >>= fun text =>
        fillWith expand values fuel read.2 >>= fun rest => pure (text ++ rest)) := fun format =>
      (write_failsAs _ _).bind fun _ => (ih _).bind fun _ => failsAs_pure _
    dsimp only
    split
    · exact (hexpand _).bind hrest
    · exact hrest _
  | case7 fuel c rest hopen hclose hstray hfield ih => exact ih.bind fun _ => failsAs_pure _

theorem fill_failsAs (values : List (String × String)) (cs : List Char) :
    FailsAs Error.isOfTemplate (fill values cs) :=
  fillWith_failsAs (fun _ => fillWith_failsAs (fun _ => failsAs_error rfl) _ _ _) _ _ _

end Template

theorem fillTemplate_failsAs (values : List (String × String)) (template : String) :
    FailsAs Error.isOfTemplate (fillTemplate values template) :=
  (Template.fill_failsAs values template.toList).map _

end ModuleDocs
