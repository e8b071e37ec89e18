import ModuleDocs.Proofs.FileTree
import ModuleDocs.Proofs.Region
import ModuleDocs.Proofs.Success

/-! # Documents written one after the other

A target that is written again and again holds the last document, as if that had been written alone
(`writeDocuments_eq_last`). One write turns the text of the target into the updated one (`writeDocument_step`);
the rest follows from the law of regions that a later document takes the place of an earlier one. -/
set_option autoImplicit false

namespace ModuleDocs

open ModuleDocs.Text

/-! ## Writes and sequences of writes -/

/-- The text of the target as it is read. -/
def targetText (settings : Settings) (ws : Workspace) : Except Error String := do
  ws.read (Path.ofLocation (← targetLocation settings ws))

/-- Opens the target for a document and writes it: the workspace and the target after that. -/
def writeDocument (settings : Settings) (ws : Workspace) (document : String) :
    Except Error (Workspace × Target) := do
  let opened := openTarget settings ws document
  let target ← opened.result
  let written := target.write settings opened.ws
  written.result
  return (written.ws, written.target)

/-- Writes documents one after the other, each into the target as it is then. -/
def writeDocuments (settings : Settings) : Workspace → List String → Except Error Workspace
  | ws, [] => .ok ws
  | ws, document :: more => do
    let (ws, _) ← writeDocument settings ws document
    writeDocuments settings ws more

/-- The target is a file, and the settings that are used for it are usable. -/
structure Settings.WritesFile (settings : Settings) : Prop where
  target : settings.ensure .target = .ok ()
  marker : settings.ensure .marker = .ok ()
  notStdout : isStdout settings.target = false
  notStderr : isStderr settings.target = false

theorem targetText_eq_ok {settings : Settings} {ws : Workspace} {text : String} :
    targetText settings ws = .ok text ↔
      ∃ loc, targetLocation settings ws = .ok loc ∧ ws.read (Path.ofLocation loc) = .ok text :=
  bind_eq_ok

theorem notMem_targetLocation {settings : Settings} {ws : Workspace} (hcwd : ".." ∉ ws.cwd) {loc : Location}
    (h : targetLocation settings ws = .ok loc) : ".." ∉ loc := by
  obtain ⟨-, -, h⟩ := bind_eq_ok.mp h
  by_cases hpath : (Path.ofText settings.target).isAbsolute || isDotted settings.target
  · simp only [hpath, if_true, pure_eq_ok] at h
    exact h ▸ Path.notMem_resolve hcwd _
  · simp only [hpath, Bool.false_eq_true, if_false, bind_eq_ok, pure_eq_ok] at h
    obtain ⟨path, -, h⟩ := h
    exact h ▸ Path.notMem_resolve hcwd _

/-! ## One write -/

theorem openTarget_of_read {settings : Settings} (hs : settings.WritesFile) {ws : Workspace}
    (hcwd : ".." ∉ ws.cwd) {loc : Location} (hloc : targetLocation settings ws = .ok loc) {text : String}
    (hread : ws.read (Path.ofLocation loc) = .ok text) (document : String) :
    openTarget settings ws document = { ws, result := .ok { location := loc, document } } := by
  obtain ⟨entry, hentry⟩ := FileTree.at?_of_read (notMem_targetLocation hcwd hloc) hread
  simp only [openTarget, hs.target, hs.notStdout, hs.notStderr, hloc, hentry, Bool.false_eq_true, if_false]

/-- A document that can be put into the text of the target is written: the target then holds the updated text,
and it is reported as changed when that is another one. -/
theorem writeDocument_step {settings : Settings} (hs : settings.WritesFile)
    (hmarker : settings.targetConfig.MarkerIsLine) {ws : Workspace} (hcwd : ".." ∉ ws.cwd) {text : String}
    (htext : targetText settings ws = .ok text) {document updated : String}
    (hu : updatedText settings.targetConfig text document = .ok updated) :
    ∃ ws' target, writeDocument settings ws document = .ok (ws', target) ∧ ws'.cwd = ws.cwd ∧
      targetText settings ws' = .ok updated ∧ target.changed = decide (text ≠ updated) ∧
      (text = updated → ws' = ws) := by
  obtain ⟨loc, hloc, hread⟩ := targetText_eq_ok.mp htext
  have hopen := openTarget_of_read hs hcwd hloc hread document
  let target : Target :=
    { location := loc, document, changed := decide (text ≠ updated), before := .text text, after := some updated }
  by_cases hsame : text = updated
  · have hwrite : writeDocument settings ws document = .ok (ws, target) := by
      simp only [writeDocument, hopen, ok_bind, Target.write, hread, hs.marker, hu, if_pos hsame]
      rfl
    exact ⟨ws, target, hwrite, rfl, hsame ▸ htext, rfl, fun _ => rfl⟩
  · obtain ⟨files, hfiles, hread'⟩ :=
      FileTree.read_write (notMem_targetLocation hcwd hloc) hread (unifyNewlines_updated hmarker hu)
    have hwrite : writeDocument settings ws document = .ok ({ ws with files }, target) := by
      simp only [writeDocument, hopen, ok_bind, Target.write, hread, hs.marker, hu, if_neg hsame, hfiles]
      rfl
    have htext' : targetText settings { ws with files } = .ok updated := targetText_eq_ok.mpr ⟨loc, hloc, hread'⟩
    exact ⟨{ ws with files }, target, hwrite, rfl, htext', rfl, fun h => absurd h hsame⟩

/-- A write that succeeds has found a file and a place for its document in the text. -/
theorem writeDocument_eq_ok {settings : Settings} {ws : Workspace} (hcwd : ".." ∉ ws.cwd) {text : String}
    (htext : targetText settings ws = .ok text) {document : String} {result : Workspace × Target}
    (h : writeDocument settings ws document = .ok result) :
    settings.WritesFile ∧ ∃ updated, updatedText settings.targetConfig text document = .ok updated := by
  obtain ⟨loc, hloc, hread⟩ := targetText_eq_ok.mp htext
  obtain ⟨target, hopened, h⟩ := bind_eq_ok.mp h
  obtain ⟨_, hwritten, _⟩ := bind_eq_ok.mp h
  cases hensure : settings.ensure .target with
  | error e => simp only [openTarget, hensure, reduceCtorEq] at hopened
  | ok u =>
    by_cases hout : isStdout settings.target
    · simp only [openTarget, hensure, hout, if_true, reduceCtorEq] at hopened
    · by_cases herr : isStderr settings.target
      · simp only [openTarget, hensure, hout, herr, Bool.false_eq_true, if_false, if_true, reduceCtorEq] at hopened
      · obtain ⟨entry, hentry⟩ := FileTree.at?_of_read (notMem_targetLocation hcwd hloc) hread
        have hopen : openTarget settings ws document = { ws, result := .ok { location := loc, document } } := by
          simp only [openTarget, hensure, hout, herr, hloc, hentry, Bool.false_eq_true, if_false]
        rw [hopen] at hopened hwritten
        cases hopened
        simp only [Target.write, hread] at hwritten
        cases hmarker : settings.ensure .marker with
        | error e =>
          rw [hmarker] at hwritten
          cases hwritten
        | ok v =>
          rw [hmarker] at hwritten
          have hs : settings.WritesFile := ⟨hensure, hmarker, by simpa using hout, by simpa using herr⟩
          cases hu : updatedText settings.targetConfig text document with
          | error e =>
            rw [ok_bind, hu] at hwritten
            cases hwritten
          | ok updated => exact ⟨hs, updated, rfl⟩

/-! ## Many writes -/

/-- Two texts into which every document goes with the same result. -/
def SameRegion (t : TargetSettings) (text text' : String) : Prop :=
  ∀ document, updatedText t text document = updatedText t text' document

/-- A run of writes ends with the text that its last document alone makes of the text at the start. The
invariant is that the text at hand takes documents as the text at the start does. -/
theorem writeDocuments_run {settings : Settings} (hs : settings.WritesFile)
    (hmarker : settings.targetConfig.MarkerIsLine) {text : String}
    (hfirst : settings.targetConfig.HidesNoMarker text) {last updated : String}
    (hlast : updatedText settings.targetConfig text last = .ok updated) {documents : List String}
    (hdocs : ∀ d ∈ documents, settings.targetConfig.endMarker ∉ linesOf d) {ws : Workspace}
    (hcwd : ".." ∉ ws.cwd) {current : String} (hcurrent : targetText settings ws = .ok current)
    (hsame : SameRegion settings.targetConfig current text) :
    ∃ ws', writeDocuments settings ws (documents ++ [last]) = .ok ws' ∧ ws'.cwd = ws.cwd ∧
      targetText settings ws' = .ok updated := by
  induction documents generalizing ws current with
  | nil =>
    obtain ⟨ws', target, hwrite, hcwd', htext', -⟩ :=
      writeDocument_step hs hmarker hcwd hcurrent ((hsame last).trans hlast)
    refine ⟨ws', ?_, hcwd', htext'⟩
    rw [List.nil_append, writeDocuments, hwrite]
    rfl
  | cons document documents ih =>
    obtain ⟨next, hnext⟩ := updatedText_ok_of_ok hlast document
    obtain ⟨ws', target, hwrite, hcwd', htext', -⟩ :=
      writeDocument_step hs hmarker hcwd hcurrent ((hsame document).trans hnext)
    have hsame' : SameRegion settings.targetConfig next text :=
      updatedText_updatedText hmarker hfirst (hdocs document List.mem_cons_self) hnext
    obtain ⟨ws'', hrun, hcwd'', htext''⟩ :=
      ih (fun d hd => hdocs d (List.mem_cons_of_mem _ hd)) (hcwd' ▸ hcwd) htext' hsame'
    refine ⟨ws'', ?_, hcwd''.trans hcwd', htext''⟩
    rw [List.cons_append, writeDocuments, hwrite]
    exact hrun

/-- Documents that are written one after the other leave the text that the last of them leaves alone; writing
that one once more changes nothing. -/
theorem writeDocuments_eq_last {settings : Settings} (hmarker : settings.targetConfig.MarkerIsLine)
    {ws : Workspace} (hcwd : ".." ∉ ws.cwd) {text : String} (htext : targetText settings ws = .ok text)
    (hfirst : settings.targetConfig.HidesNoMarker text) {documents : List String} {last : String}
    (hdocs : ∀ d ∈ documents, settings.targetConfig.endMarker ∉ linesOf d)
    (hwrite : ∀ d, (documents ++ [last]).head? = some d → ∃ result, writeDocument settings ws d = .ok result) :
    ∃ ws₁ ws₂ target₂ updated,
      writeDocuments settings ws (documents ++ [last]) = .ok ws₁ ∧ targetText settings ws₁ = .ok updated ∧
      writeDocument settings ws last = .ok (ws₂, target₂) ∧ targetText settings ws₂ = .ok updated ∧
      (settings.targetConfig.endMarker ∉ linesOf last →
        ∃ target₁, writeDocument settings ws₁ last = .ok (ws₁, target₁) ∧ target₁.changed = false) := by
  obtain ⟨first, hhead⟩ : ∃ d, (documents ++ [last]).head? = some d := by
    cases documents with
    | nil => exact ⟨last, rfl⟩
    | cons d ds => exact ⟨d, rfl⟩
  obtain ⟨result, hresult⟩ := hwrite first hhead
  obtain ⟨hs, _, hupdated⟩ := writeDocument_eq_ok hcwd htext hresult
  obtain ⟨updated, hlast⟩ := updatedText_ok_of_ok hupdated last
  obtain ⟨ws₂, target₂, hwrite₂, -, htext₂, -⟩ := writeDocument_step hs hmarker hcwd htext hlast
  obtain ⟨ws₁, hrun, hcwd₁, htext₁⟩ :=
    writeDocuments_run hs hmarker hfirst hlast hdocs hcwd htext (fun _ => rfl)
  refine ⟨ws₁, ws₂, target₂, updated, hrun, htext₁, hwrite₂, htext₂, fun hend => ?_⟩
  have hagain : updatedText settings.targetConfig updated last = .ok updated :=
    (updatedText_updatedText hmarker hfirst hend hlast last).trans hlast
  obtain ⟨ws₃, target₁, hwrite₃, -, -, hchanged, hws⟩ :=
    writeDocument_step hs hmarker (hcwd₁ ▸ hcwd) htext₁ hagain
  rw [hws rfl] at hwrite₃
  exact ⟨target₁, hwrite₃, by rw [hchanged]; simp⟩

/-- A workspace whose target has a region, line ends of two kinds, and blanks at both of its ends. -/
def readmeWorkspace : Workspace where
  cwd := ["m"]
  files := ⟨[(["m"], .directory), (["m", "README.md"],
    .file "\r\n  # Title\r\n<!-- TOFU_DOCS START -->\nold\n<!-- TOFU_DOCS END -->\r\nend \n\n" false)]⟩

def readmeText : String :=
  "\n  # Title\n<!-- TOFU_DOCS START -->\nold\n<!-- TOFU_DOCS END -->\nend \n\n"

/-- Three documents written to such a target leave the last one. -/
theorem writeDocuments_eq_last_readme :
    ".." ∉ readmeWorkspace.cwd ∧ targetText {} readmeWorkspace = .ok readmeText ∧
    ∃ ws₁ ws₂ target₂ updated,
      writeDocuments {} readmeWorkspace (["one", "two\u2028lines\n"] ++ ["three"]) = .ok ws₁ ∧
      targetText {} ws₁ = .ok updated ∧
      writeDocument {} readmeWorkspace "three" = .ok (ws₂, target₂) ∧ targetText {} ws₂ = .ok updated ∧
      ("<!-- TOFU_DOCS END -->" ∉ linesOf "three" →
        ∃ target₁, writeDocument {} ws₁ "three" = .ok (ws₁, target₁) ∧ target₁.changed = false) := by
  have hmarker : TargetSettings.MarkerIsLine {} := by
    unfold TargetSettings.MarkerIsLine
    decide +kernel
  have hcwd : ".." ∉ readmeWorkspace.cwd := by decide
  have htext : targetText {} readmeWorkspace = .ok readmeText := by decide +kernel
  have hfirst : TargetSettings.HidesNoMarker {} readmeText := by
    intro line hline m hm e
    have hfind : (linesOf readmeText).find? (!isBlankLine ·) = some "  # Title" := by decide +kernel
    rw [hfind] at hline
    cases hline
    exact absurd (e ▸ hm) (by decide +kernel)
  have hdocs : ∀ d ∈ ["one", "two\u2028lines\n"], TargetSettings.endMarker {} ∉ linesOf d := by decide +kernel
  have hwrite : ∃ result, writeDocument {} readmeWorkspace "one" = .ok result :=
    exists_of_isOk (by decide +kernel)
  refine ⟨hcwd, htext, writeDocuments_eq_last hmarker hcwd htext hfirst hdocs ?_⟩
  intro d hd
  cases hd
  exact hwrite

end ModuleDocs
