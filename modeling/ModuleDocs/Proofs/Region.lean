import ModuleDocs.Proofs.Success
import ModuleDocs.Proofs.Text.Lines
import ModuleDocs.Target

/-! # The frame of a region

Lines with a region, or with a place for one, have a frame: what stands before the start marker and what
stands after the end marker (`regionFrame`). Putting generated lines into the region is putting them into
the frame (`insertRegion_eq`), and the frame of what comes out is the old one with the white space at its two
outer ends cut off (`regionFrame_updated`). So a later document takes the place of an earlier one
(`updatedText_updatedText`). -/
set_option autoImplicit false

namespace ModuleDocs

open ModuleDocs.Text

/-! ## Positions -/

theorem position?_eq_none {ls : List String} {m : String} : position? ls m = none ↔ m ∉ ls := by
  rw [position?, List.findIdx?_eq_none_iff]
  constructor
  · intro h hm
    exact absurd (h m hm) (by simp)
  · intro h x hx
    simp only [beq_eq_false_iff_ne]
    exact fun e => h (e ▸ hx)

theorem position?_append {before : List String} {m : String} (h : m ∉ before) (after : List String) :
    position? (before ++ m :: after) m = some before.length := by
  have hnone : before.findIdx? (· == m) = none := position?_eq_none.mpr h
  rw [position?, List.findIdx?_append, hnone, List.findIdx?_cons]
  simp

/-- The first position of a line cuts the lines in two, the first part without that line. -/
theorem exists_of_position? {ls : List String} {m : String} {i : Nat} (h : position? ls m = some i) :
    ∃ before after, ls = before ++ m :: after ∧ m ∉ before ∧ before.length = i := by
  obtain ⟨hi, hm, hbefore⟩ := List.findIdx?_eq_some_iff_getElem.mp h
  have hmi : ls[i] = m := by simpa using hm
  refine ⟨ls.take i, ls.drop (i + 1), ?_, ?_, ?_⟩
  · rw [← hmi, ← List.drop_eq_getElem_cons hi, List.take_append_drop]
  · intro hmem
    obtain ⟨j, hj, e⟩ := List.mem_iff_getElem.mp hmem
    rw [List.length_take] at hj
    rw [List.getElem_take] at e
    exact hbefore j (by omega) (by simp [e])
  · rw [List.length_take]
    omega

/-! ## Markers -/

section Markers
variable (t : TargetSettings)

theorem startMarker_ne_endMarker : t.startMarker ≠ t.endMarker := by
  intro h
  have hlen := congrArg String.length h
  simp only [TargetSettings.startMarker, TargetSettings.endMarker, TargetSettings.markerLine,
    String.length_append] at hlen
  have hs : "START".length = 5 := by decide
  have he : "END".length = 3 := by decide
  omega

theorem markerLine_toList_cons (kind : String) : ∃ cs, (t.markerLine kind).toList = '<' :: cs :=
  ⟨"!-- ".toList ++ t.marker.toList ++ " ".toList ++ kind.toList ++ " -->".toList, by
    simp [TargetSettings.markerLine, String.toList_append]⟩

theorem markerLine_toList_concat (kind : String) : ∃ cs, (t.markerLine kind).toList = cs ++ ['>'] :=
  ⟨"<!-- ".toList ++ t.marker.toList ++ " ".toList ++ kind.toList ++ " --".toList, by
    simp [TargetSettings.markerLine, String.toList_append]⟩

theorem isBlankLine_markerLine (kind : String) : isBlankLine (t.markerLine kind) = false := by
  obtain ⟨cs, h⟩ := markerLine_toList_cons t kind
  have hb : isBlank '<' = false := by decide
  rw [isBlankLine, h, List.all_cons, hb, Bool.false_and]

theorem trimStart_markerLine (kind : String) :
    trimStart (t.markerLine kind).toList = (t.markerLine kind).toList := by
  obtain ⟨cs, h⟩ := markerLine_toList_cons t kind
  have hb : isBlank '<' = false := by decide
  rw [h, trimStart, List.dropWhile_cons, hb]
  rfl

theorem trimEnd_markerLine (kind : String) :
    trimEnd (t.markerLine kind).toList = (t.markerLine kind).toList := by
  obtain ⟨cs, h⟩ := markerLine_toList_concat t kind
  have hb : ['>'].all isBlank = false := by decide
  rw [h, trimEnd_append, hb]
  rfl

end Markers

/-- The marker of the settings stands on one line. -/
def TargetSettings.MarkerIsLine (t : TargetSettings) : Prop := IsLine t.marker.toList

theorem TargetSettings.MarkerIsLine.isLine {t : TargetSettings} (h : t.MarkerIsLine) {kind : String}
    (hkind : IsLine kind.toList) : IsLine (t.markerLine kind).toList := by
  have hopen : IsLine "<!-- ".toList := by decide +kernel
  have hblank : IsLine " ".toList := by decide +kernel
  have hclose : IsLine " -->".toList := by decide +kernel
  intro c hc
  simp only [TargetSettings.markerLine, String.toList_append, List.mem_append] at hc
  rcases hc with (((hc | hc) | hc) | hc) | hc
  · exact hopen c hc
  · exact h c hc
  · exact hblank c hc
  · exact hkind c hc
  · exact hclose c hc

theorem TargetSettings.MarkerIsLine.start {t : TargetSettings} (h : t.MarkerIsLine) :
    IsLine t.startMarker.toList := h.isLine (by decide +kernel)

theorem TargetSettings.MarkerIsLine.stop {t : TargetSettings} (h : t.MarkerIsLine) :
    IsLine t.endMarker.toList := h.isLine (by decide +kernel)

/-! ## Frames -/

/-- The lines before and after the region of some lines. Without markers the region is to come last. -/
def regionFrame (t : TargetSettings) (content : List String) : Except Error (List String × List String) :=
  match position? content t.startMarker, position? content t.endMarker with
  | none, none =>
    match t.insertPosition with
    | .bottom => .ok (content, [])
    | .other _ => .error .invalidInsertPosition
  | some start, some stop =>
    if start ≤ stop then .ok (content.take start, content.drop (stop + 1)) else .error .invalidMarkers
  | _, _ => .error .invalidMarkers

def fillFrame (t : TargetSettings) (frame : List String × List String) (docs : List String) : List String :=
  frame.1 ++ t.startMarker :: docs ++ t.endMarker :: frame.2

theorem insertRegion_eq (t : TargetSettings) (content docs : List String) :
    insertRegion t content docs = (regionFrame t content).map (fillFrame t · docs) := by
  unfold insertRegion regionFrame
  cases hs : position? content t.startMarker with
  | none =>
    cases he : position? content t.endMarker with
    | none => cases t.insertPosition <;> rfl
    | some stop => rfl
  | some start =>
    cases he : position? content t.endMarker with
    | none => rfl
    | some stop =>
      obtain ⟨before, rest, hcontent, -, rfl⟩ := exists_of_position? hs
      obtain ⟨before', after, hcontent', -, rfl⟩ := exists_of_position? he
      have htake : content.take (before.length + 1) = before ++ [t.startMarker] := by
        rw [hcontent, List.take_append, List.take_of_length_le (Nat.le_succ _)]
        simp
      have htake' : content.take before.length = before := by
        rw [hcontent, List.take_left]
      have hdrop : content.drop before'.length = t.endMarker :: after := by
        rw [hcontent', List.drop_left]
      have hdrop' : content.drop (before'.length + 1) = after := by
        rw [← List.drop_drop, hdrop]
        rfl
      simp only [htake, htake', hdrop, hdrop']
      split
      · simp [Except.map, fillFrame]
      · rfl

/-- Two marker lines, each at its first position: the lines between them have no end marker. -/
theorem fillFrame_of_positions {t : TargetSettings} {content before rest before' after : List String}
    (hs : content = before ++ t.startMarker :: rest) (he : content = before' ++ t.endMarker :: after)
    (hend : t.endMarker ∉ before') (hle : before.length ≤ before'.length) :
    t.endMarker ∉ before ∧ ∃ docs, t.endMarker ∉ docs ∧ content = fillFrame t (before, after) docs := by
  have hne := startMarker_ne_endMarker t
  rcases List.append_eq_append_iff.mp (hs.symm.trans he) with ⟨mid, hbefore', hrest⟩ | ⟨mid, hbefore, hrest⟩
  · cases mid with
    | nil => exact absurd (List.cons.inj hrest).1 hne
    | cons m docs =>
      obtain ⟨rfl, rfl⟩ := List.cons.inj hrest
      rw [hbefore', List.mem_append, List.mem_cons] at hend
      refine ⟨fun h => hend (.inl h), docs, fun h => hend (.inr (.inr h)), ?_⟩
      rw [hs, fillFrame, List.append_assoc, List.cons_append]
      rfl
  · have hmid : mid = [] := by
      rw [hbefore, List.length_append] at hle
      exact List.length_eq_zero_iff.mp (by omega)
    subst hmid
    exact absurd (List.cons.inj hrest).1 hne.symm

theorem regionFrame_fillFrame {t : TargetSettings} {frame : List String × List String} {docs : List String}
    (hstart : t.startMarker ∉ frame.1) (hend : t.endMarker ∉ frame.1) (hdocs : t.endMarker ∉ docs) :
    regionFrame t (fillFrame t frame docs) = .ok frame := by
  have hs : position? (fillFrame t frame docs) t.startMarker = some frame.1.length := by
    rw [fillFrame, List.append_assoc, List.cons_append]
    exact position?_append hstart _
  have hend' : t.endMarker ∉ frame.1 ++ t.startMarker :: docs := by
    rw [List.mem_append, List.mem_cons]
    rintro (h | h | h)
    · exact hend h
    · exact startMarker_ne_endMarker t h.symm
    · exact hdocs h
  have he : position? (fillFrame t frame docs) t.endMarker = some (frame.1 ++ t.startMarker :: docs).length :=
    position?_append hend' _
  have htake : (fillFrame t frame docs).take frame.1.length = frame.1 := by
    rw [fillFrame, List.append_assoc, List.take_left]
  have hdrop : (fillFrame t frame docs).drop ((frame.1 ++ t.startMarker :: docs).length + 1) = frame.2 := by
    rw [← List.drop_drop, fillFrame, List.drop_left]
    rfl
  have hle : frame.1.length ≤ (frame.1 ++ t.startMarker :: docs).length := by
    rw [List.length_append]
    omega
  simp only [regionFrame, hs, he, hle, htake, hdrop, if_true]

/-- Lines have a frame when they have no marker at all, or when their first start marker comes before their
first end marker. -/
theorem regionFrame_eq_ok {t : TargetSettings} {content : List String} {frame : List String × List String}
    (h : regionFrame t content = .ok frame) :
    (t.startMarker ∉ content ∧ t.endMarker ∉ content ∧ frame = (content, [])) ∨
      (t.startMarker ∉ frame.1 ∧ t.endMarker ∉ frame.1 ∧
        ∃ docs, t.endMarker ∉ docs ∧ content = fillFrame t frame docs) := by
  unfold regionFrame at h
  cases hs : position? content t.startMarker with
  | none =>
    cases he : position? content t.endMarker with
    | none =>
      left
      cases hp : t.insertPosition with
      | bottom =>
        simp only [hs, he, hp, Except.ok.injEq] at h
        exact ⟨position?_eq_none.mp hs, position?_eq_none.mp he, h.symm⟩
      | other name => simp only [hs, he, hp, reduceCtorEq] at h
    | some stop => simp only [hs, he, reduceCtorEq] at h
  | some start =>
    cases he : position? content t.endMarker with
    | none => simp only [hs, he, reduceCtorEq] at h
    | some stop =>
      right
      obtain ⟨before, rest, hcontent, hstart, rfl⟩ := exists_of_position? hs
      obtain ⟨before', after, hcontent', hend, rfl⟩ := exists_of_position? he
      simp only [hs, he] at h
      by_cases hle : before.length ≤ before'.length
      · obtain ⟨hbefore, hdocs⟩ := fillFrame_of_positions hcontent hcontent' hend hle
        have htake : content.take before.length = before := by
          rw [hcontent, List.take_left]
        have hdrop : content.drop (before'.length + 1) = after := by
          rw [hcontent', ← List.drop_drop, List.drop_left]
          rfl
        rw [if_pos hle, htake, hdrop] at h
        cases h
        exact ⟨hstart, hbefore, hdocs⟩
      · rw [if_neg hle] at h
        cases h

theorem regionFrame_before {t : TargetSettings} {content : List String} {frame : List String × List String}
    (h : regionFrame t content = .ok frame) :
    frame.1 <+: content ∧ t.startMarker ∉ frame.1 ∧ t.endMarker ∉ frame.1 := by
  rcases regionFrame_eq_ok h with ⟨hstart, hend, rfl⟩ | ⟨hstart, hend, docs, -, rfl⟩
  · exact ⟨List.prefix_rfl, hstart, hend⟩
  · refine ⟨?_, hstart, hend⟩
    rw [fillFrame, List.append_assoc]
    exact List.prefix_append _ _

theorem regionFrame_after {t : TargetSettings} {content : List String} {frame : List String × List String}
    (h : regionFrame t content = .ok frame) : frame.2 ⊆ content := by
  rcases regionFrame_eq_ok h with ⟨-, -, rfl⟩ | ⟨-, -, docs, -, rfl⟩
  · exact List.nil_subset _
  · intro l hl
    rw [fillFrame, List.mem_append, List.mem_cons]
    exact .inr (.inr hl)

/-! ## Texts with a region -/

/-- A frame without the white space at its two outer ends. -/
def trimFrame (frame : List String × List String) : List String × List String :=
  (trimTop frame.1, trimBottom frame.2)

theorem trimFrame_trimFrame (frame : List String × List String) :
    trimFrame (trimFrame frame) = trimFrame frame := by
  simp only [trimFrame, trimTop_trimTop, trimBottom_trimBottom]

/-- The markers shield what is between them from being trimmed. -/
theorem trim_fillFrame (t : TargetSettings) (frame : List String × List String) (docs : List String) :
    trimBottom (trimTop (fillFrame t frame docs)) = fillFrame t (trimFrame frame) docs := by
  have htop : trimTop (fillFrame t frame docs) =
      (trimTop frame.1 ++ t.startMarker :: docs) ++ t.endMarker :: frame.2 := by
    rw [fillFrame, List.append_assoc, List.cons_append,
      trimTop_append (m := t.startMarker) (isBlankLine_markerLine t _) (trimStart_markerLine t _),
      List.append_assoc, List.cons_append]
  rw [htop, trimBottom_append (m := t.endMarker) (isBlankLine_markerLine t _) (trimEnd_markerLine t _)]
  rfl

theorem updatedText_eq (t : TargetSettings) (text document : String) :
    updatedText t text document = (regionFrame t (linesOf text)).map fun frame =>
      unlines (fillFrame t (trimFrame frame) (linesOf document)) ++ "\n" := by
  have h : updatedText t text document = (regionFrame t (linesOf text)).map fun frame =>
      trimmed (unlines (fillFrame t frame (linesOf document))) ++ "\n" := by
    rw [updatedText, insertRegion_eq]
    cases regionFrame t (linesOf text) <;> rfl
  simp only [h, trimmed_unlines, trim_fillFrame]

theorem isLine_of_mem_fillFrame {t : TargetSettings} (ht : t.MarkerIsLine) {text : String}
    {frame : List String × List String} (hframe : regionFrame t (linesOf text) = .ok frame) (document : String)
    {l : String} (hl : l ∈ fillFrame t (trimFrame frame) (linesOf document)) : IsLine l.toList := by
  have hbefore : ∀ l ∈ frame.1, IsLine l.toList := fun l hl =>
    isLine_of_mem_linesOf ((regionFrame_before hframe).1.subset hl)
  have hafter : ∀ l ∈ frame.2.reverse, IsLine l.toList := fun l hl =>
    isLine_of_mem_linesOf (regionFrame_after hframe (List.mem_reverse.mp hl))
  simp only [fillFrame, trimFrame, trimBottom, List.mem_append, List.mem_cons, List.mem_reverse] at hl
  rcases hl with (hl | rfl | hl) | rfl | hl
  · exact isLine_of_mem_trimOuter trimStart_subset hbefore hl
  · exact ht.start
  · exact isLine_of_mem_linesOf hl
  · exact ht.stop
  · exact isLine_of_mem_trimOuter trimEnd_subset hafter hl

theorem linesOf_updated {t : TargetSettings} (ht : t.MarkerIsLine) {text : String}
    {frame : List String × List String} (hframe : regionFrame t (linesOf text) = .ok frame) (document : String) :
    linesOf (unlines (fillFrame t (trimFrame frame) (linesOf document)) ++ "\n") =
      fillFrame t (trimFrame frame) (linesOf document) := by
  apply linesOf_unlines
  · simp [fillFrame]
  · exact fun l => isLine_of_mem_fillFrame ht hframe document

/-! ## Writing again -/

/-- The first line of a text that is not blank becomes no marker when the blanks in front of it are cut off,
unless it is one already. -/
def TargetSettings.HidesNoMarker (t : TargetSettings) (text : String) : Prop :=
  ∀ line, (linesOf text).find? (!isBlankLine ·) = some line →
    ∀ m ∈ [t.startMarker, t.endMarker], String.ofList (trimStart line.toList) = m → line = m

instance (t : TargetSettings) (text : String) : Decidable (t.HidesNoMarker text) :=
  inferInstanceAs (Decidable (∀ line ∈ (linesOf text).find? (!isBlankLine ·),
    ∀ m ∈ [t.startMarker, t.endMarker], String.ofList (trimStart line.toList) = m → line = m))

theorem not_mem_trimTop {t : TargetSettings} {text : String} (hfirst : t.HidesNoMarker text)
    {frame : List String × List String} (hframe : regionFrame t (linesOf text) = .ok frame) {m : String}
    (hm : m ∈ [t.startMarker, t.endMarker]) : m ∉ trimTop frame.1 := by
  obtain ⟨hlead, hstart, hend⟩ := regionFrame_before hframe
  have hbefore : m ∉ frame.1 := by
    rw [List.mem_cons, List.mem_singleton] at hm
    rcases hm with rfl | rfl
    · exact hstart
    · exact hend
  intro h
  rcases mem_trimOuter h with h | ⟨line, hline, e⟩
  · exact hbefore h
  · obtain ⟨rest, hrest⟩ := hlead
    have hfind : (linesOf text).find? (!isBlankLine ·) = some line := by
      rw [← hrest, List.find?_append, hline]
      rfl
    have hlm := hfirst line hfind m hm e.symm
    exact hbefore (hlm ▸ List.mem_of_find?_eq_some hline)

/-- The frame of a text that a document was put into is the trimmed frame of the text before. -/
theorem regionFrame_updated {t : TargetSettings} (ht : t.MarkerIsLine) {text : String}
    (hfirst : t.HidesNoMarker text) {frame : List String × List String}
    (hframe : regionFrame t (linesOf text) = .ok frame) {document : String}
    (hdoc : t.endMarker ∉ linesOf document) :
    regionFrame t (linesOf (unlines (fillFrame t (trimFrame frame) (linesOf document)) ++ "\n")) =
      .ok (trimFrame frame) := by
  rw [linesOf_updated ht hframe]
  exact regionFrame_fillFrame (not_mem_trimTop hfirst hframe (by simp)) (not_mem_trimTop hfirst hframe (by simp))
    hdoc

/-- A document that is put into a text after another one leaves what it leaves alone. -/
theorem updatedText_updatedText {t : TargetSettings} (ht : t.MarkerIsLine) {text : String}
    (hfirst : t.HidesNoMarker text) {document updated : String} (hdoc : t.endMarker ∉ linesOf document)
    (h : updatedText t text document = .ok updated) (next : String) :
    updatedText t updated next = updatedText t text next := by
  cases hframe : regionFrame t (linesOf text) with
  | error e =>
    rw [updatedText_eq, hframe] at h
    cases h
  | ok frame =>
    rw [updatedText_eq, hframe] at h
    cases h
    rw [updatedText_eq, regionFrame_updated ht hfirst hframe hdoc, updatedText_eq, hframe]
    simp only [Except.map, trimFrame_trimFrame]

/-- Whether a document can be put into a text does not depend on the document. -/
theorem updatedText_ok_of_ok {t : TargetSettings} {text document updated : String}
    (h : updatedText t text document = .ok updated) (other : String) :
    ∃ updated', updatedText t text other = .ok updated' := by
  rw [updatedText_eq] at h ⊢
  cases hframe : regionFrame t (linesOf text) with
  | error e =>
    rw [hframe] at h
    cases h
  | ok frame => exact ⟨_, rfl⟩

theorem unifyNewlines_updated {t : TargetSettings} (ht : t.MarkerIsLine) {text document updated : String}
    (h : updatedText t text document = .ok updated) : unifyNewlines updated.toList = updated.toList := by
  rw [updatedText_eq] at h
  cases hframe : regionFrame t (linesOf text) with
  | error e =>
    rw [hframe] at h
    cases h
  | ok frame =>
    rw [hframe] at h
    cases h
    exact unifyNewlines_unlines fun l => isLine_of_mem_fillFrame ht hframe document

/-! ## Texts without markers -/

/-- No line of a text is a marker, also when the blanks at its ends are cut off. -/
def TargetSettings.HasNoMarkers (t : TargetSettings) (text : String) : Prop :=
  ∀ line ∈ linesOf text, trimmed line ∉ [t.startMarker, t.endMarker]

instance (t : TargetSettings) (text : String) : Decidable (t.HasNoMarkers text) :=
  inferInstanceAs (Decidable (∀ line ∈ linesOf text, trimmed line ∉ [t.startMarker, t.endMarker]))

section Markers
variable {t : TargetSettings} {text : String}

theorem trim_markerLine (kind : String) : trim (t.markerLine kind).toList = (t.markerLine kind).toList := by
  rw [trim, trimStart_markerLine, trimEnd_markerLine]

theorem TargetSettings.HasNoMarkers.of_linesOf {other : String} (h : t.HasNoMarkers other)
    (hlines : linesOf text = linesOf other) : t.HasNoMarkers text := by
  unfold TargetSettings.HasNoMarkers
  rw [hlines]
  exact h

theorem TargetSettings.HasNoMarkers.hidesNoMarker (h : t.HasNoMarkers text) : t.HidesNoMarker text := by
  intro line hline m hm he
  refine absurd ?_ (h line (List.mem_of_find?_eq_some hline))
  have hend : trimEnd m.toList = m.toList := by
    rw [List.mem_cons, List.mem_singleton] at hm
    rcases hm with rfl | rfl
    · exact trimEnd_markerLine t "START"
    · exact trimEnd_markerLine t "END"
  have htrim : trimmed line = m := by
    rw [trimmed, trim, ← String.toList_ofList (l := trimStart line.toList), he, hend, String.ofList_toList]
  rw [htrim]
  exact hm

theorem startMarker_mem_updated (hmarker : t.MarkerIsLine) {document updated : String}
    (h : updatedText t text document = .ok updated) : t.startMarker ∈ linesOf updated := by
  rw [updatedText_eq, map_eq_ok] at h
  obtain ⟨frame, hframe, rfl⟩ := h
  rw [linesOf_updated hmarker hframe]
  simp [fillFrame]

theorem TargetSettings.HasNoMarkers.ne_updated (h : t.HasNoMarkers text) (hmarker : t.MarkerIsLine)
    {document updated : String} (hupdated : updatedText t text document = .ok updated) : text ≠ updated := by
  rintro rfl
  refine h t.startMarker (startMarker_mem_updated hmarker hupdated) ?_
  have htrim : trimmed t.startMarker = t.startMarker := by
    rw [trimmed, TargetSettings.startMarker, trim_markerLine, String.ofList_toList]
  rw [htrim]
  exact List.mem_cons_self

theorem linesOf_eq_of_updatedText (hmarker : t.MarkerIsLine) {document document' updated : String}
    (h : updatedText t text document = .ok updated) (h' : updatedText t text document' = .ok updated) :
    linesOf document = linesOf document' := by
  rw [updatedText_eq, map_eq_ok] at h h'
  obtain ⟨frame, hframe, hleft⟩ := h
  obtain ⟨frame', hframe', hleft'⟩ := h'
  cases hframe.symm.trans hframe'
  have hlines := congrArg linesOf (hleft.trans hleft'.symm)
  rw [linesOf_updated hmarker hframe, linesOf_updated hmarker hframe, fillFrame, fillFrame] at hlines
  simpa using hlines

end Markers

end ModuleDocs
