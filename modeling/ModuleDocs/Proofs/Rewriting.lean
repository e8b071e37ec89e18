import ModuleDocs.Proofs.TargetEffect

/-! # Writing to a target that was written

A target that was written has both markers, and it can be written again when the first start marker comes before the
first end marker (`MarkersInOrder`). That is so unless the text before the write hides an end marker behind the blanks
at its start: they are cut off, and the line becomes a marker (`Target.write_again_iff`). -/
set_option autoImplicit false

namespace ModuleDocs

open ModuleDocs.Text

/-! ## Order of the markers -/

theorem position?_lt_of_mem {before : List String} {m : String} (h : m ∈ before) (after : List String) :
    ∃ i, i < before.length ∧ position? (before ++ after) m = some i := by
  cases hi : position? before m with
  | none => exact absurd h (position?_eq_none.mp hi)
  | some i =>
    have hi' : before.findIdx? (· == m) = some i := hi
    refine ⟨i, (List.findIdx?_eq_some_iff_getElem.mp hi').1, ?_⟩
    rw [position?, List.findIdx?_append, hi', Option.some_or]

theorem le_position?_of_notMem {before : List String} {m : String} (h : m ∉ before) {after : List String}
    (hafter : m ∈ after) : ∃ i, before.length ≤ i ∧ position? (before ++ after) m = some i := by
  obtain ⟨front, back, rfl⟩ := List.append_of_mem hafter
  obtain ⟨i, -, hi⟩ := position?_lt_of_mem (List.mem_append_right front (List.mem_singleton_self m)) back
  have hnone : before.findIdx? (· == m) = none := position?_eq_none.mpr h
  refine ⟨i + before.length, Nat.le_add_left _ _, ?_⟩
  rw [List.append_assoc, List.singleton_append] at hi
  rw [position?, List.findIdx?_append, hnone, Option.none_or]
  exact congrArg (Option.map (· + before.length)) hi

/-- Both markers are there, and the first start marker comes before the first end marker. -/
def TargetSettings.MarkersInOrder (t : TargetSettings) (ls : List String) : Prop :=
  ∃ start stop, position? ls t.startMarker = some start ∧ position? ls t.endMarker = some stop ∧ start < stop

section Order
variable {t : TargetSettings}

theorem markersInOrder_fillFrame {frame : List String × List String} (hend : t.endMarker ∉ frame.1)
    (docs : List String) : t.MarkersInOrder (fillFrame t frame docs) := by
  have hcut : fillFrame t frame docs = frame.1 ++ t.startMarker :: (docs ++ t.endMarker :: frame.2) := by
    rw [fillFrame, List.append_assoc, List.cons_append]
  have hstart : ∃ start, start ≤ frame.1.length ∧ position? (fillFrame t frame docs) t.startMarker = some start := by
    rw [hcut]
    by_cases hs : t.startMarker ∈ frame.1
    · obtain ⟨start, hlt, h⟩ := position?_lt_of_mem hs (t.startMarker :: (docs ++ t.endMarker :: frame.2))
      exact ⟨start, Nat.le_of_lt hlt, h⟩
    · exact ⟨_, Nat.le_refl _, position?_append hs _⟩
  have hstop : ∃ stop, frame.1.length + 1 ≤ stop ∧ position? (fillFrame t frame docs) t.endMarker = some stop := by
    have hbefore : t.endMarker ∉ frame.1 ++ [t.startMarker] := by
      rw [List.mem_append, List.mem_singleton]
      rintro (h | h)
      · exact hend h
      · exact startMarker_ne_endMarker t h.symm
    obtain ⟨stop, hle, h⟩ := le_position?_of_notMem hbefore
      (List.mem_append_right docs (List.mem_cons_self (a := t.endMarker) (l := frame.2)))
    rw [List.length_append, List.length_singleton] at hle
    rw [List.append_assoc, List.singleton_append, ← hcut] at h
    exact ⟨stop, hle, h⟩
  obtain ⟨start, hle, hs⟩ := hstart
  obtain ⟨stop, hle', he⟩ := hstop
  exact ⟨start, stop, hs, he, by omega⟩

theorem regionFrame_endMarker_cons {ls : List String} (hstart : t.startMarker ∈ ls) :
    ¬ t.MarkersInOrder (t.endMarker :: ls) ∧ regionFrame t (t.endMarker :: ls) = .error .invalidMarkers := by
  have he : position? (t.endMarker :: ls) t.endMarker = some 0 := position?_append List.not_mem_nil ls
  have hne : t.startMarker ∉ [t.endMarker] := fun h => startMarker_ne_endMarker t (List.mem_singleton.mp h)
  obtain ⟨start, hle, hs⟩ := le_position?_of_notMem hne hstart
  rw [List.length_singleton] at hle
  rw [List.singleton_append] at hs
  constructor
  · rintro ⟨start', stop', hs', he', hlt⟩
    rw [he] at he'
    cases he'
    omega
  · simp only [regionFrame, hs, he]
    rw [if_neg (by omega)]

theorem regionFrame_of_markersInOrder {ls : List String} (h : t.MarkersInOrder ls) :
    ∃ frame, regionFrame t ls = .ok frame := by
  obtain ⟨start, stop, hs, he, hlt⟩ := h
  refine ⟨(ls.take start, ls.drop (stop + 1)), ?_⟩
  simp only [regionFrame, hs, he, if_pos (Nat.le_of_lt hlt)]

end Order

/-! ## Hidden end markers -/

/-- The first line of a text that is not blank is an end marker, once the blanks in front of it are cut off. -/
def TargetSettings.HidesEnd (t : TargetSettings) (text : String) : Prop :=
  ∃ line, (linesOf text).find? (!isBlankLine ·) = some line ∧
    String.ofList (trimStart line.toList) = t.endMarker

theorem trimOuter_eq_cons {cut : List Char → List Char} {ls : List String} {l : String}
    (h : ls.find? (!isBlankLine ·) = some l) : ∃ more, trimOuter cut ls = String.ofList (cut l.toList) :: more := by
  induction ls with
  | nil => cases h
  | cons k ls ih =>
    by_cases hk : isBlankLine k
    · rw [List.find?_cons_of_neg (by simp [hk])] at h
      rw [trimOuter, if_pos hk]
      exact ih h
    · rw [List.find?_cons_of_pos (by simp [hk])] at h
      cases h
      exact ⟨ls, by rw [trimOuter, if_neg hk]⟩

section Hidden
variable {t : TargetSettings} {text : String} {frame : List String × List String}

theorem trimTop_of_hidesEnd (hframe : regionFrame t (linesOf text) = .ok frame) (h : t.HidesEnd text) :
    ∃ more, trimTop frame.1 = t.endMarker :: more := by
  obtain ⟨line, hline, hcut⟩ := h
  have hbefore : frame.1.find? (!isBlankLine ·) = some line := by
    rcases regionFrame_eq_ok hframe with ⟨-, -, rfl⟩ | ⟨-, -, docs, -, hcontent⟩
    · exact hline
    · rw [hcontent, fillFrame, List.append_assoc, List.find?_append] at hline
      cases hfind : frame.1.find? (!isBlankLine ·) with
      | some l =>
        rw [hfind] at hline
        exact hline
      | none =>
        -- Otherwise it is the start marker itself, which is no end marker.
        have hblank : isBlankLine t.startMarker = false := isBlankLine_markerLine t _
        rw [hfind, List.cons_append, List.find?_cons_of_pos (by simp [hblank])] at hline
        cases hline
        have hstart : String.ofList (trimStart t.startMarker.toList) = t.startMarker := by
          rw [TargetSettings.startMarker, trimStart_markerLine, String.ofList_toList]
        exact absurd (hstart.symm.trans hcut) (startMarker_ne_endMarker t)
  obtain ⟨more, hmore⟩ : ∃ more, trimOuter trimStart frame.1 = String.ofList (trimStart line.toList) :: more :=
    trimOuter_eq_cons hbefore
  exact ⟨more, by rw [trimTop, hmore, hcut]⟩

theorem endMarker_notMem_trimTop (hframe : regionFrame t (linesOf text) = .ok frame) (h : ¬ t.HidesEnd text) :
    t.endMarker ∉ trimTop frame.1 := by
  obtain ⟨⟨rest, hrest⟩, -, hend⟩ := regionFrame_before hframe
  intro hmem
  rcases mem_trimOuter hmem with hmem | ⟨line, hline, hcut⟩
  · exact hend hmem
  · refine h ⟨line, ?_, hcut.symm⟩
    rw [← hrest, List.find?_append, hline]
    rfl

/-- Where a text hides an end marker, a document that is put into it comes to stand after an end marker. -/
theorem fillFrame_of_hidesEnd (hframe : regionFrame t (linesOf text) = .ok frame) (h : t.HidesEnd text)
    (docs : List String) :
    ∃ ls, t.startMarker ∈ ls ∧ fillFrame t (trimFrame frame) docs = t.endMarker :: ls := by
  obtain ⟨more, hmore⟩ := trimTop_of_hidesEnd hframe h
  refine ⟨fillFrame t (more, trimBottom frame.2) docs, by simp [fillFrame], ?_⟩
  simp only [fillFrame, trimFrame, hmore, List.cons_append]

end Hidden

/-! ## Writing again -/

/-- The markers of a text that a document was put into are in order unless the text before hid an end marker. -/
theorem markersInOrder_updated_iff {t : TargetSettings} (ht : t.MarkerIsLine) {text document updated : String}
    (h : updatedText t text document = .ok updated) :
    t.MarkersInOrder (linesOf updated) ↔ ¬ t.HidesEnd text := by
  rw [updatedText_eq] at h
  obtain ⟨frame, hframe, rfl⟩ := map_eq_ok.mp h
  rw [linesOf_updated ht hframe]
  constructor
  · intro horder hhides
    obtain ⟨ls, hstart, hls⟩ := fillFrame_of_hidesEnd hframe hhides (linesOf document)
    exact (regionFrame_endMarker_cons hstart).1 (hls ▸ horder)
  · exact fun hhides => markersInOrder_fillFrame (endMarker_notMem_trimTop hframe hhides) _

theorem updatedText_of_hidesEnd {t : TargetSettings} (ht : t.MarkerIsLine) {text document updated : String}
    (h : updatedText t text document = .ok updated) (hhides : t.HidesEnd text) (next : String) :
    updatedText t updated next = .error .invalidMarkers := by
  rw [updatedText_eq] at h
  obtain ⟨frame, hframe, rfl⟩ := map_eq_ok.mp h
  obtain ⟨ls, hstart, hls⟩ := fillFrame_of_hidesEnd hframe hhides (linesOf document)
  rw [updatedText_eq, linesOf_updated ht hframe, hls, (regionFrame_endMarker_cons hstart).2]
  rfl

/-- Whether a target can be written depends on whether a place for the document is found in its text. -/
theorem Target.write_result {target : Target} {settings : Settings} {ws : Workspace}
    (hmarker : settings.targetConfig.MarkerIsLine) (hensure : settings.ensure .marker = .ok ())
    (hloc : ".." ∉ target.location) {text : String}
    (hread : ws.read (Path.ofLocation target.location) = .ok text) :
    (target.write settings ws).result =
      (updatedText settings.targetConfig text target.document).map fun _ => () := by
  cases hupdated : updatedText settings.targetConfig text target.document with
  | error e =>
    simp only [Target.write, hread, hensure, ok_bind, hupdated]
    rfl
  | ok updated =>
    by_cases hsame : text = updated
    · simp only [Target.write, hread, hensure, ok_bind, hupdated, if_pos hsame]
      rfl
    · obtain ⟨files, hfiles, -⟩ := FileTree.read_write hloc hread (unifyNewlines_updated hmarker hupdated)
      simp only [Target.write, hread, hensure, ok_bind, hupdated, if_neg hsame, hfiles]
      rfl

/-- After a write that has succeeded the markers of the target are in order, and every later write succeeds, exactly
when the text before did not hide an end marker; a later write fails for its markers otherwise. -/
theorem Target.write_again_iff {settings : Settings} (hmarker : settings.targetConfig.MarkerIsLine) {ws : Workspace}
    {target : Target} (hloc : ".." ∉ target.location) {text : String}
    (htext : ws.read (Path.ofLocation target.location) = .ok text)
    (h : (target.write settings ws).result = .ok ()) :
    ∃ updated, (target.write settings ws).ws.read (Path.ofLocation target.location) = .ok updated ∧
      (settings.targetConfig.MarkersInOrder (linesOf updated) ↔ ¬ settings.targetConfig.HidesEnd text) ∧
      ∀ next : Target, next.location = target.location →
        ((next.write settings (target.write settings ws).ws).result = .ok () ↔
          ¬ settings.targetConfig.HidesEnd text) ∧
        ((next.write settings (target.write settings ws).ws).result = .error .invalidMarkers ↔
          settings.targetConfig.HidesEnd text) := by
  obtain ⟨hensure, text', updated, hread, hupdated, -⟩ := Target.write_eq_ok h
  cases htext.symm.trans hread
  have hread' := Target.read_of_write hmarker hloc htext hupdated h
  have horder := markersInOrder_updated_iff hmarker hupdated
  refine ⟨updated, hread', horder, fun next hnext => ?_⟩
  rw [← hnext] at hread' hloc
  have hresult := Target.write_result hmarker hensure hloc hread'
  by_cases hhides : settings.targetConfig.HidesEnd text
  · have hfail := updatedText_of_hidesEnd hmarker hupdated hhides next.document
    rw [hresult, hfail]
    simp [Except.map, hhides]
  · obtain ⟨frame, hframe⟩ := regionFrame_of_markersInOrder (horder.mpr hhides)
    rw [hresult, updatedText_eq, hframe]
    simp [Except.map, hhides]

/-- A target whose only line is an end marker behind two blanks. -/
def indentedWorkspace : Workspace where
  cwd := ["m"]
  files := ⟨[(["m"], .directory), (["m", "README.md"], .file "  <!-- TOFU_DOCS END -->\n" false)]⟩

/-- The readme of a module, with a document for it. -/
def readmeTarget (document : String) : Target := { location := ["m", "README.md"], document }

/-- The target with a region can be written again and again. -/
theorem Target.write_again_readme :
    ".." ∉ (readmeTarget "one").location ∧
    readmeWorkspace.read (Path.ofLocation (readmeTarget "one").location) = .ok readmeText ∧
    ((readmeTarget "one").write {} readmeWorkspace).result = .ok () ∧
    ((readmeTarget "two\n").write {} ((readmeTarget "one").write {} readmeWorkspace).ws).result = .ok () := by
  have hmarker : TargetSettings.MarkerIsLine {} := by
    unfold TargetSettings.MarkerIsLine
    decide +kernel
  have hloc : ".." ∉ (readmeTarget "one").location := by decide
  have hread : readmeWorkspace.read (Path.ofLocation (readmeTarget "one").location) = .ok readmeText := by
    decide +kernel
  have hwrite : ((readmeTarget "one").write {} readmeWorkspace).result = .ok () := by decide +kernel
  have hhides : ¬ TargetSettings.HidesEnd {} readmeText := by
    rintro ⟨line, hline, hcut⟩
    have hfind : (linesOf readmeText).find? (!isBlankLine ·) = some "  # Title" := by decide +kernel
    rw [hfind] at hline
    cases hline
    exact absurd hcut (by decide +kernel)
  obtain ⟨updated, -, -, hnext⟩ := Target.write_again_iff hmarker hloc hread hwrite
  exact ⟨hloc, hread, hwrite, (hnext (readmeTarget "two\n") rfl).1.mpr hhides⟩

/-- The indented end marker: the first write succeeds, and every later one fails. -/
theorem Target.write_again_indented :
    ((readmeTarget "one").write {} indentedWorkspace).result = .ok () ∧
    ((readmeTarget "one").write {} ((readmeTarget "one").write {} indentedWorkspace).ws).result =
      .error .invalidMarkers := by
  decide +kernel

end ModuleDocs
