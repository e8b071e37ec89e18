import ModuleDocs.Proofs.TableLayout
import ModuleDocs.Table.Collapse

/-! # Characters of cells

Cells are collapsed and laid out, which writes tags and numbers and drops blanks and line breaks. All other characters
of a cell stay in it (`keepsText_collapseCell`), bars also where a number is written anew (`bar_mem_shownCell`), and
none but those of tags and numbers come into it. -/
set_option autoImplicit false

namespace ModuleDocs

open Table Text

/-! ## Reading numbers -/

theorem bar_mem_takeSign {cs : List Char} (h : '|' ∈ cs) : '|' ∈ (Number.takeSign cs).2 := by
  unfold Number.takeSign
  split
  · exact (List.mem_cons.mp h).resolve_left (by decide)
  · exact (List.mem_cons.mp h).resolve_left (by decide)
  · exact h

theorem bar_mem_takeDigits (within : Bool) {cs : List Char} (h : '|' ∈ cs) : '|' ∈ (Number.takeDigits within cs).2 := by
  induction cs generalizing within with
  | nil => cases h
  | cons c cs ih =>
    rw [Number.takeDigits]
    split
    · next d hd =>
      have hc : '|' ≠ c := by
        rintro rfl
        cases hd
      exact ih true ((List.mem_cons.mp h).resolve_left hc)
    · split
      · next hskip =>
        have hc : '|' ≠ c := by
          rintro rfl
          simp at hskip
        exact ih false ((List.mem_cons.mp h).resolve_left hc)
      · exact h

theorem exponent?_bar {cs : List Char} (h : '|' ∈ cs) : Number.exponent? cs = none := by
  cases cs with
  | nil => cases h
  | cons c cs =>
    rw [Number.exponent?]
    split
    · next hc =>
      have hbar : '|' ∈ cs := by
        refine (List.mem_cons.mp h).resolve_left ?_
        rintro rfl
        cases hc
      have hrest := List.ne_nil_of_mem (bar_mem_takeDigits false (bar_mem_takeSign hbar))
      simp [hrest]
    · rfl

theorem bar_notMem_of_double? {cs : List Char} {d : Double} (h : Number.double? cs = some d) : '|' ∉ cs := by
  intro hbar
  have hsign := bar_mem_takeSign ((mem_trim (by decide)).mpr hbar)
  have hword : ∀ word : String, '|' ∉ word.toList →
      String.ofList ((Number.takeSign (trim cs)).2.map Char.toLower) ≠ word := by
    rintro _ hword rfl
    rw [String.toList_ofList] at hword
    exact hword (List.mem_map.mpr ⟨'|', hsign, rfl⟩)
  have hwhole := bar_mem_takeDigits false hsign
  unfold Number.double? at h
  simp only [hword "inf" (by decide), hword "infinity" (by decide), hword "nan" (by decide), or_self, if_false] at h
  split at h
  · next rest hrest =>
    rw [hrest] at hwhole
    have hfraction := bar_mem_takeDigits false ((List.mem_cons.mp hwhole).resolve_left (by decide))
    rw [exponent?_bar hfraction, Option.map_none, ite_self] at h
    cases h
  · rw [exponent?_bar hwhole, Option.map_none, ite_self] at h
    cases h

/-! ## Writing numbers -/

/-- The characters that numbers are written with. -/
def isNumeral (c : Char) : Bool := c.isDigit || "-+.aefin".toList.contains c

section Numerals
variable {c : Char}

theorem isNumeral_of_mem_toDigits {n : Nat} (h : c ∈ Nat.toDigits 10 n) : isNumeral c = true := by
  rw [isNumeral, Nat.isDigit_of_mem_toDigits (by decide) (by decide) h, Bool.true_or]

theorem isNumeral_of_mem_zeros {n : Nat} (h : c ∈ List.replicate n '0') : isNumeral c = true := by
  rw [List.eq_of_mem_replicate h]
  decide

theorem isNumeral_of_mem_exponentText {e : Int} (h : c ∈ Double.exponentText e) : isNumeral c = true := by
  rw [Double.exponentText, List.mem_cons, List.mem_cons, Double.paddedDigits, List.mem_append] at h
  rcases h with rfl | h | h | h
  · decide
  · split at h
    · rw [h]; decide
    · rw [h]; decide
  · exact isNumeral_of_mem_zeros h
  · exact isNumeral_of_mem_toDigits h

theorem isNumeral_of_mem_layout {positional pointZero : Bool} {ds : List Char} (hds : ∀ c ∈ ds, isNumeral c = true)
    {place : Int} (h : c ∈ Double.layout positional pointZero ds place) : isNumeral c = true := by
  have hpoint : isNumeral '.' = true := by decide
  have hzero : isNumeral '0' = true := by decide
  unfold Double.layout at h
  split at h
  · split at h
    · simp only [List.cons_append, List.mem_cons, List.mem_append] at h
      rcases h with rfl | rfl | h | h
      exacts [hzero, hpoint, isNumeral_of_mem_zeros h, hds c h]
    · have hfront : ∀ n k, c ∈ ds.take n ++ List.replicate k '0' → isNumeral c = true := by
        intro n k hmem
        rcases List.mem_append.mp hmem with hmem | hmem
        · exact hds c (List.mem_of_mem_take hmem)
        · exact isNumeral_of_mem_zeros hmem
      dsimp only at h
      split at h
      · rcases List.mem_append.mp h with h | h
        · exact hfront _ _ h
        · split at h
          · rcases List.mem_pair.mp h with rfl | rfl
            exacts [hpoint, hzero]
          · cases h
      · rcases List.mem_append.mp h with h | h
        · exact hfront _ _ h
        · rcases List.mem_cons.mp h with rfl | h
          exacts [hpoint, hds c (List.mem_of_mem_drop h)]
  · split at h
    · rw [List.mem_singleton.mp h]
      exact hzero
    · rcases List.mem_cons.mp h with rfl | h
      · exact hds _ List.mem_cons_self
      · exact isNumeral_of_mem_exponentText h
    · simp only [List.cons_append, List.mem_cons, List.mem_append] at h
      rcases h with rfl | rfl | h | h
      · exact hds _ List.mem_cons_self
      · exact hpoint
      · exact hds _ (List.mem_cons_of_mem _ h)
      · exact isNumeral_of_mem_exponentText h

theorem isNumeral_of_mem_general {d : Double} (h : c ∈ d.general.toList) : isNumeral c = true := by
  have hword : ∀ word : String, word.toList.all isNumeral = true → c ∈ word.toList → isNumeral c = true :=
    fun word hall => List.all_eq_true.mp hall c
  unfold Double.general at h
  split at h
  · exact hword "nan" (by decide) h
  · split at h
    · exact hword "-inf" (by decide) h
    · exact hword "inf" (by decide) h
  · split at h
    · exact hword "-0" (by decide) h
    · exact hword "0" (by decide) h
  · have hdigits : ∀ n, ∀ c ∈ Double.dropTrailingZeros (Nat.toDigits 10 n), isNumeral c = true := by
      intro n c hc
      rw [Double.dropTrailingZeros, List.mem_reverse] at hc
      exact isNumeral_of_mem_toDigits (List.mem_reverse.mp ((List.dropWhile_sublist _).subset hc))
    rw [String.toList_ofList, Double.signed] at h
    split at h
    · rcases List.mem_cons.mp h with rfl | h
      · decide
      · exact isNumeral_of_mem_layout (hdigits _) h
    · exact isNumeral_of_mem_layout (hdigits _) h

end Numerals

/-! ## Shown cells -/

section Shown
variable {kind : CellKind} {cs : List Char}

/-- What is shown of a cell: all of it, or all but the blanks at its ends, or a number written anew. -/
theorem shownCell_cases (kind : CellKind) (cs : List Char) :
    shownCell kind cs = cs ∨ shownCell kind cs = trim cs ∨
      (∃ d, Number.double? (visible cs) = some d ∧ shownCell kind cs =
        if visible cs = cs then d.general.toList else replaceAll (visible cs) d.general.toList cs) ∨
      (∀ cell, formatCell kind cs ≠ .ok cell) ∧ shownCell kind cs = [] := by
  cases kind with
  | truth => exact .inr (.inl rfl)
  | whole => exact .inl rfl
  | text => exact .inr (.inl rfl)
  | number =>
    have hshown : shownCell .number cs = resultD [] (formatNumber cs) := rfl
    have hformat : formatCell .number cs = formatNumber cs := rfl
    rw [hshown, hformat]
    unfold formatNumber
    cases hd : Number.double? (visible cs) with
    | none =>
      simp only [hd]
      exact .inr (.inr (.inr ⟨fun _ h => (nomatch h), rfl⟩))
    | some d =>
      simp only [hd]
      exact .inr (.inr (.inl ⟨d, rfl, rfl⟩))

/-- Other characters than those of numbers are in no shown cell that did not have them. -/
theorem mem_of_mem_shownCell {c : Char} (hc : isNumeral c = false) (h : c ∈ shownCell kind cs) : c ∈ cs := by
  have hnumber : ∀ d : Double, c ∉ d.general.toList := by
    intro d hmem
    rw [isNumeral_of_mem_general hmem] at hc
    cases hc
  rcases shownCell_cases kind cs with e | e | ⟨d, -, e⟩ | ⟨-, e⟩
  · rwa [e] at h
  · rw [e] at h
    exact trim_subset cs h
  · rw [e] at h
    split at h
    · exact absurd h (hnumber d)
    · exact mem_of_mem_replaceAll (hnumber d) h
  · rw [e] at h
    cases h

/-- A bar stays, also one in a cell with a number, where only a control code can have it. -/
theorem bar_mem_shownCell (hformat : ∃ cell, formatCell kind cs = .ok cell) : '|' ∈ shownCell kind cs ↔ '|' ∈ cs := by
  refine ⟨mem_of_mem_shownCell (by decide), fun h => ?_⟩
  rcases shownCell_cases kind cs with e | e | ⟨d, hd, e⟩ | ⟨hfail, -⟩
  · rwa [e]
  · rw [e]
    exact (mem_trim (by decide)).mpr h
  · have hraw := bar_notMem_of_double? hd
    have hne : visible cs ≠ [] := by
      intro hnil
      have hnone : Number.double? [] = none := by decide
      rw [hnil, hnone] at hd
      cases hd
    have hgeneral : '|' ∉ d.general.toList := fun hmem => absurd (isNumeral_of_mem_general hmem) (by decide)
    rw [e]
    split
    · next hsame =>
      rw [hsame] at hraw
      exact absurd h hraw
    · exact (mem_replaceAll hne hraw hgeneral).mpr h
  · obtain ⟨cell, hcell⟩ := hformat
    exact absurd hcell (hfail cell)

end Shown

/-! ## Collapsed cells -/

/-- The characters of the tags that collapsing writes. -/
def isMarkup (c : Char) : Bool := "<details></details><br/>".toList.contains c

/-- A text with the characters of another one: at most tags have been added, and tags and blanks been left out. -/
def KeepsText (cs cs' : List Char) : Prop :=
  ∀ c, isMarkup c = false → (c ∈ cs' → c ∈ cs) ∧ (isBlank c = false → c ∈ cs → c ∈ cs')

namespace KeepsText

theorem refl (cs : List Char) : KeepsText cs cs := fun _ _ => ⟨id, fun _ => id⟩

theorem trans {cs cs' cs'' : List Char} (h : KeepsText cs cs') (h' : KeepsText cs' cs'') : KeepsText cs cs'' :=
  fun c hc => ⟨fun hmem => (h c hc).1 ((h' c hc).1 hmem),
    fun hblank hmem => (h' c hc).2 hblank ((h c hc).2 hblank hmem)⟩

theorem of_iff {cs cs' : List Char} (h : ∀ c, isMarkup c = false → (c ∈ cs' ↔ c ∈ cs)) : KeepsText cs cs' :=
  fun c hc => ⟨(h c hc).mp, fun _ => (h c hc).mpr⟩

theorem append {cs cs' ds ds' : List Char} (h : KeepsText cs cs') (h' : KeepsText ds ds') :
    KeepsText (cs ++ ds) (cs' ++ ds') := by
  intro c hc
  rw [List.mem_append, List.mem_append]
  exact ⟨Or.imp (h c hc).1 (h' c hc).1, fun hblank => Or.imp ((h c hc).2 hblank) ((h' c hc).2 hblank)⟩

theorem reverse {cs cs' : List Char} (h : KeepsText cs cs') : KeepsText cs.reverse cs'.reverse := by
  intro c hc
  rw [List.mem_reverse, List.mem_reverse]
  exact h c hc

end KeepsText

section Tags
variable {tag : List Char} (htag : tag.all isMarkup = true)
include htag

theorem notMem_tag {c : Char} (hc : isMarkup c = false) : c ∉ tag := fun h => by
  rw [List.all_eq_true.mp htag c h] at hc
  cases hc

theorem keepsText_tag (cs : List Char) : KeepsText cs (tag ++ cs) :=
  .of_iff fun _ hc => by rw [List.mem_append, or_iff_right (notMem_tag htag hc)]

theorem keepsText_drop_tag (cs : List Char) : KeepsText (tag ++ cs) cs :=
  .of_iff fun _ hc => by rw [List.mem_append, or_iff_right (notMem_tag htag hc)]

end Tags

theorem keepsText_trimStart (cs : List Char) : KeepsText cs (trimStart cs) :=
  fun _ _ => ⟨fun h => trimStart_subset cs h, fun hblank => (mem_trimStart hblank).mpr⟩

theorem keepsText_trim (cs : List Char) : KeepsText cs (trim cs) :=
  fun _ _ => ⟨fun h => trim_subset cs h, fun hblank => (mem_trim hblank).mpr⟩

theorem keepsText_dropBreaks {mark : List Char} (hmark : mark.all isMarkup = true) (fuel : Nat)
    (cs : List Char) : KeepsText cs (dropBreaks mark fuel cs) := by
  induction fuel generalizing cs with
  | zero => exact .refl cs
  | succ fuel ih =>
    rw [dropBreaks]
    split
    · next rest hrest =>
      have hcut : trimStart cs = mark ++ rest := dropPrefix?_eq_some.mp hrest
      have hstart := keepsText_trimStart cs
      rw [hcut] at hstart
      exact ((hstart.trans (keepsText_drop_tag hmark rest)).trans (keepsText_trimStart rest)).trans (ih _)
    · exact .refl cs

theorem keepsText_trimBreaks (cs : List Char) : KeepsText cs (trimBreaks cs) := by
  have hend : ∀ ds : List Char, KeepsText ds (dropBreaks lineBreak.reverse ds.length ds.reverse).reverse := by
    intro ds
    have hmark : lineBreak.reverse.all isMarkup = true := by decide
    have hback := (keepsText_dropBreaks hmark ds.length ds.reverse).reverse
    rwa [List.reverse_reverse] at hback
  exact (keepsText_dropBreaks (by decide) cs.length cs).trans (hend _)

theorem keepsText_folded {threshold : Int} {cs cs' : List Char} (h : folded threshold cs = .ok cs') :
    KeepsText cs cs' := by
  obtain ⟨shown, -, h⟩ := bind_eq_ok.mp h
  obtain rfl := pure_eq_ok.mp h
  split
  · refine .of_iff fun c hc => ?_
    rw [List.mem_append, List.mem_append, or_iff_left (notMem_tag (by decide) hc),
      or_iff_right (notMem_tag (by decide) hc)]
  · exact .refl cs

theorem keepsText_firstLine (cs : List Char) : KeepsText cs ((firstLine cs).1 ++ (firstLine cs).2) := by
  unfold firstLine
  have hpieces : ∀ c, isMarkup c = false → (c ∈ (splitOn lineBreak cs).flatten ↔ c ∈ cs) :=
    fun c hc => mem_flatten_splitOn (by decide) (notMem_tag (by decide) hc)
  cases hsplit : splitOn lineBreak cs with
  | nil =>
    rw [hsplit] at hpieces
    exact .of_iff hpieces
  | cons first more =>
    have hjoin : KeepsText cs (first ++ lineBreak.intercalate more) := by
      refine .of_iff fun c hc => ?_
      rw [← hpieces c hc, hsplit, List.flatten_cons, List.mem_append, List.mem_append,
        mem_intercalate (notMem_tag (by decide) hc)]
    exact hjoin.trans ((keepsText_trim first).append ((keepsText_trim _).trans (keepsText_trimBreaks _)))

theorem keepsText_collapseCell {threshold : Int} {keepFirst : Bool} {cell text : String}
    (h : collapseCell threshold keepFirst cell = .ok text) : KeepsText cell.toList text.toList := by
  have hbreaks := keepsText_trimBreaks cell.toList
  unfold collapseCell at h
  cases keepFirst with
  | false =>
    obtain ⟨cs, hcs, h⟩ := bind_eq_ok.mp h
    obtain rfl := pure_eq_ok.mp h
    rw [String.toList_ofList]
    exact hbreaks.trans (keepsText_folded hcs)
  | true =>
    obtain ⟨cs, hcs, h⟩ := bind_eq_ok.mp h
    obtain rfl := pure_eq_ok.mp h
    rw [String.toList_ofList, List.append_assoc]
    refine hbreaks.trans ((keepsText_firstLine _).trans ((KeepsText.refl _).append ?_))
    exact (keepsText_folded hcs).trans (keepsText_tag (by decide) cs)

end ModuleDocs
