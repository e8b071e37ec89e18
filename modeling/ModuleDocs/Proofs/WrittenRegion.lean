import ModuleDocs.Proofs.TargetEffect

/-! # What a write leaves

The first start marker and the first end marker cut the lines of a target in three: those before the region, those in
it, and those after it. A write puts the lines of its document between the markers and keeps the other two parts, but
for the white space at the two ends of the text (`write_leaves_parts`): the frame of the region is the same before and
after (`regionFrame_updated`), and the three parts are read off the frame. -/
set_option autoImplicit false

namespace ModuleDocs

open ModuleDocs.Text

/-! ## The parts of a target -/

section Parts
variable (t : TargetSettings) (ls : List String)

/-- The lines before the first start marker, all of them if there is none. -/
def TargetSettings.linesBefore : List String := ls.take ((position? ls t.startMarker).getD ls.length)

/-- The lines after the first end marker, none if there is none. -/
def TargetSettings.linesAfter : List String := ls.drop ((position? ls t.endMarker).elim ls.length (· + 1))

/-- The lines strictly between the first start marker and the first end marker, if the markers are in this order. -/
def TargetSettings.linesBetween : Option (List String) := do
  let start ← position? ls t.startMarker
  let stop ← position? ls t.endMarker
  if start < stop then some ((ls.take stop).drop (start + 1)) else none

end Parts

section Frames
variable {t : TargetSettings}

theorem regionFrame_eq_parts {ls : List String} {frame : List String × List String}
    (h : regionFrame t ls = .ok frame) : frame = (t.linesBefore ls, t.linesAfter ls) := by
  unfold regionFrame at h
  unfold TargetSettings.linesBefore TargetSettings.linesAfter
  cases hs : position? ls t.startMarker with
  | none =>
    cases he : position? ls t.endMarker with
    | none =>
      cases hp : t.insertPosition with
      | bottom =>
        simp only [hs, he, hp, Except.ok.injEq] at h
        rw [← h, Option.getD_none, Option.elim_none, List.take_length, List.drop_length]
      | other name => simp only [hs, he, hp, reduceCtorEq] at h
    | some stop => simp only [hs, he, reduceCtorEq] at h
  | some start =>
    cases he : position? ls t.endMarker with
    | none => simp only [hs, he, reduceCtorEq] at h
    | some stop =>
      simp only [hs, he] at h
      split at h
      · exact (Except.ok.inj h).symm
      · cases h

/-- What is put into a frame stands between the markers, if it has no end marker of its own. -/
theorem linesBetween_fillFrame {frame : List String × List String} {docs : List String}
    (hstart : t.startMarker ∉ frame.1) (hend : t.endMarker ∉ frame.1) (hdocs : t.endMarker ∉ docs) :
    t.linesBetween (fillFrame t frame docs) = some docs := by
  have hend' : t.endMarker ∉ frame.1 ++ t.startMarker :: docs := by
    simp [hend, hdocs, (startMarker_ne_endMarker t).symm]
  have hs : position? (fillFrame t frame docs) t.startMarker = some frame.1.length := by
    rw [fillFrame, List.append_assoc, List.cons_append]
    exact position?_append hstart _
  have he : position? (fillFrame t frame docs) t.endMarker = some (frame.1 ++ t.startMarker :: docs).length :=
    position?_append hend' _
  have hlt : frame.1.length < (frame.1 ++ t.startMarker :: docs).length := by simp
  have htake : (fillFrame t frame docs).take (frame.1 ++ t.startMarker :: docs).length =
      frame.1 ++ t.startMarker :: docs := List.take_left
  have hdrop : (frame.1 ++ t.startMarker :: docs).drop (frame.1.length + 1) = docs := by
    rw [← List.drop_drop, List.drop_left]
    rfl
  simp only [TargetSettings.linesBetween, hs, he, Option.bind_eq_bind, Option.bind_some, if_pos hlt, htake, hdrop]

end Frames

/-! ## The end of a target -/

theorem not_suffix_trim {c : Char} (hc : isBlank c = true) (cs : List Char) : ¬ [c] <:+ trim cs := by
  rintro ⟨front, hfront⟩
  refine getLast?_trim_ne hc cs ?_
  rw [← hfront, List.getLast?_concat]

theorem newline_suffix_updated {t : TargetSettings} {text document updated : String}
    (h : updatedText t text document = .ok updated) :
    ['\n'] <:+ updated.toList ∧ ¬ ['\n', '\n'] <:+ updated.toList := by
  obtain ⟨ls, -, hls⟩ := bind_eq_ok.mp h
  obtain rfl := pure_eq_ok.mp hls
  rw [String.toList_append, trimmed, String.toList_ofList]
  have hfeed : "\n".toList = ['\n'] := by decide
  rw [hfeed]
  refine ⟨List.suffix_append _ _, fun hsuffix => ?_⟩
  obtain ⟨front, hfront⟩ := hsuffix
  have hcut : front ++ ['\n'] = trim (unlines ls).toList := by
    have hsplit : front ++ ['\n', '\n'] = (front ++ ['\n']) ++ ['\n'] := by simp
    exact List.append_cancel_right (hsplit.symm.trans hfront)
  exact not_suffix_trim (by decide) _ ⟨front, hcut⟩

/-! ## Writing -/

/-- The parts of an updated text: the document, and what stood around the region without its outer white space. -/
theorem updatedText_parts {t : TargetSettings} (ht : t.MarkerIsLine) {text : String} (hfirst : t.HidesNoMarker text)
    {document updated : String} (hdoc : t.endMarker ∉ linesOf document)
    (h : updatedText t text document = .ok updated) :
    t.linesBetween (linesOf updated) = some (linesOf document) ∧
      t.linesBefore (linesOf updated) = trimTop (t.linesBefore (linesOf text)) ∧
      t.linesAfter (linesOf updated) = trimBottom (t.linesAfter (linesOf text)) := by
  rw [updatedText_eq] at h
  obtain ⟨frame, hframe, rfl⟩ := map_eq_ok.mp h
  obtain rfl := regionFrame_eq_parts hframe
  obtain ⟨hbefore, hafter⟩ := Prod.mk.inj (regionFrame_eq_parts (regionFrame_updated ht hfirst hframe hdoc))
  refine ⟨?_, hbefore.symm, hafter.symm⟩
  rw [linesOf_updated ht hframe]
  exact linesBetween_fillFrame (not_mem_trimTop hfirst hframe (by simp)) (not_mem_trimTop hfirst hframe (by simp)) hdoc

/-- A write leaves the lines of its document between the markers, and around them what was there before, without the
white space at the two ends; the text ends with one line feed. -/
theorem write_leaves_parts {settings : Settings} (hmarker : settings.targetConfig.MarkerIsLine) {ws : Workspace}
    (hcwd : ".." ∉ ws.cwd) {document : String} (hdoc : settings.targetConfig.endMarker ∉ linesOf document)
    {target : Target} (hopen : (openTarget settings ws document).result = .ok target) {text : String}
    (htext : (openTarget settings ws document).ws.read (Path.ofLocation target.location) = .ok text)
    (hfirst : settings.targetConfig.HidesNoMarker text)
    (h : (target.write settings (openTarget settings ws document).ws).result = .ok ()) :
    ∃ updated, (target.write settings (openTarget settings ws document).ws).ws.read
        (Path.ofLocation target.location) = .ok updated ∧
      settings.targetConfig.linesBetween (linesOf updated) = some (linesOf document) ∧
      settings.targetConfig.linesBefore (linesOf updated) =
        trimTop (settings.targetConfig.linesBefore (linesOf text)) ∧
      settings.targetConfig.linesAfter (linesOf updated) =
        trimBottom (settings.targetConfig.linesAfter (linesOf text)) ∧
      ['\n'] <:+ updated.toList ∧ ¬ ['\n', '\n'] <:+ updated.toList := by
  obtain ⟨hlocation, hdocument⟩ := openTarget_eq_ok hopen
  have hloc := notMem_targetLocation hcwd hlocation
  obtain ⟨-, text', updated, hread, hupdated, -⟩ := Target.write_eq_ok h
  obtain rfl : text = text' := Except.ok.inj (htext.symm.trans hread)
  have hread' := Target.read_of_write hmarker hloc htext hupdated h
  rw [hdocument] at hupdated
  obtain ⟨hbetween, hbefore, hafter⟩ := updatedText_parts hmarker hfirst hdoc hupdated
  exact ⟨updated, hread', hbetween, hbefore, hafter, newline_suffix_updated hupdated⟩

/-- A target with blank ends, whose last marker comes after its region. -/
def notedText : String := " \n  # T\n<!-- D START -->\nold\n<!-- D END -->\nend\u2028<!-- D END -->\n\n"

def notedWorkspace : Workspace where
  cwd := ["m"]
  files := ⟨[(["m"], .directory), (["m", "README.md"], .file notedText false)]⟩

def shortMarker : Settings where
  targetConfig := { marker := "D" }

/-- The document itself has a start marker. -/
def notedTarget : Target := { location := ["m", "README.md"], document := "a\n<!-- D START -->" }

theorem write_leaves_parts_noted :
    shortMarker.targetConfig.endMarker ∉ linesOf notedTarget.document ∧
    (openTarget shortMarker notedWorkspace notedTarget.document).result = .ok notedTarget ∧
    shortMarker.targetConfig.HidesNoMarker notedText ∧
    ∃ updated, (notedTarget.write shortMarker
        (openTarget shortMarker notedWorkspace notedTarget.document).ws).ws.read
          (Path.ofLocation notedTarget.location) = .ok updated ∧
      shortMarker.targetConfig.linesBetween (linesOf updated) = some ["a", "<!-- D START -->"] ∧
      shortMarker.targetConfig.linesBefore (linesOf updated) = ["# T"] ∧
      shortMarker.targetConfig.linesAfter (linesOf updated) = ["end", "<!-- D END -->"] ∧
      ['\n'] <:+ updated.toList ∧ ¬ ['\n', '\n'] <:+ updated.toList := by
  have hmarker : shortMarker.targetConfig.MarkerIsLine := by
    unfold TargetSettings.MarkerIsLine
    decide +kernel
  have hdoc : shortMarker.targetConfig.endMarker ∉ linesOf notedTarget.document := by decide +kernel
  have hopen : (openTarget shortMarker notedWorkspace notedTarget.document).result = .ok notedTarget := by
    decide +kernel
  have htext : (openTarget shortMarker notedWorkspace notedTarget.document).ws.read
      (Path.ofLocation notedTarget.location) = .ok notedText := by
    decide +kernel
  have hfirst : shortMarker.targetConfig.HidesNoMarker notedText := by decide +kernel
  have hwrite : (notedTarget.write shortMarker
      (openTarget shortMarker notedWorkspace notedTarget.document).ws).result = .ok () := by
    decide +kernel
  have hlines : linesOf notedTarget.document = ["a", "<!-- D START -->"] := by decide +kernel
  have htop : trimTop (shortMarker.targetConfig.linesBefore (linesOf notedText)) = ["# T"] := by decide +kernel
  have hbottom : trimBottom (shortMarker.targetConfig.linesAfter (linesOf notedText)) = ["end", "<!-- D END -->"] := by
    decide +kernel
  have hparts := write_leaves_parts hmarker (by decide) hdoc hopen htext hfirst hwrite
  rw [hlines, htop, hbottom] at hparts
  exact ⟨hdoc, hopen, hfirst, hparts⟩

end ModuleDocs
