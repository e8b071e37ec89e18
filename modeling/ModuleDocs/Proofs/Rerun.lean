import ModuleDocs.Proofs.ModuleGrowth
import ModuleDocs.Proofs.TargetEffect
import ModuleDocs.Run

/-! # Runs and second runs

A run reports a change exactly when the stored target is another one, and a second run has nothing to change
(`runOnce_settles`). What a run finds and leaves is listed once (`WritesInto`); a second run finds the same module, and
the document of the first in the target. -/
set_option autoImplicit false

namespace ModuleDocs

open ModuleDocs.Text

/-! ## Steps of a run -/

/-- The run neither dumps its settings nor stages its target, which is no stream. -/
structure Settings.OnlyWrites (settings : Settings) : Prop where
  noDump : settings.dumpConfig = false
  noStaging : settings.changedGitAdd = false
  notStdout : isStdout settings.target = false
  notStderr : isStderr settings.target = false

def Target.verdict (target : Target) : Verdict := if target.changed then .changed else .unchanged

section Run
variable {ws ws' : Workspace} {parse : Hcl.Parser} {settings : Settings} {document : String} {target : Target}

theorem dump_of_noDump (h : settings.dumpConfig = false) (ws : Workspace) :
    settings.dump ws = (settings.ensure .configFile).map fun _ => ws := by
  cases hconfig : settings.ensure .configFile <;> simp only [Settings.dump, hconfig, h] <;> rfl

/-- A run that makes a document and writes it reports what it has done to the target. -/
theorem runOnce_of_writeDocument (hs : settings.OnlyWrites) (hconfig : settings.ensure .configFile = .ok ())
    (hdocument : moduleDocument ws parse settings = .ok document)
    (hwrite : writeDocument settings ws document = .ok (ws', target)) :
    runOnce ws parse settings = { ws := ws', verdict := .ok target.verdict } := by
  have hdump : settings.dump ws = .ok ws := by
    rw [dump_of_noDump hs.noDump, hconfig]
    rfl
  obtain ⟨opened, hopened, h⟩ := bind_eq_ok.mp hwrite
  obtain ⟨_, hresult, h⟩ := bind_eq_ok.mp h
  cases h
  unfold moduleDocument at hdocument
  simp only [runOnce, hdump, hdocument, hopened, finish, hresult, hs.noStaging, Target.verdict]
  cases (opened.write settings (openTarget settings ws document).ws).target.changed <;> rfl

/-- A run that ends without a failure has made a document and written it. -/
theorem runOnce_eq_ok (hs : settings.OnlyWrites) {verdict : Verdict}
    (h : (runOnce ws parse settings).verdict = .ok verdict) :
    settings.ensure .configFile = .ok () ∧ ∃ document ws' target, moduleDocument ws parse settings = .ok document ∧
      writeDocument settings ws document = .ok (ws', target) := by
  have hdump := dump_of_noDump hs.noDump ws
  cases hconfig : settings.ensure .configFile with
  | error e => simp only [runOnce, hdump, hconfig, Except.map, reduceCtorEq] at h
  | ok =>
    refine ⟨rfl, ?_⟩
    cases hdocument : moduleDocument ws parse settings with
    | error e =>
      unfold moduleDocument at hdocument
      simp only [runOnce, hdump, hconfig, Except.map, hdocument, reduceCtorEq] at h
    | ok document =>
      unfold moduleDocument at hdocument
      simp only [runOnce, hdump, hconfig, Except.map, hdocument] at h
      cases hopened : (openTarget settings ws document).result with
      | error e =>
        -- A run ends well without a write only where the target is a stream.
        have he := openTarget_failsAs hs.notStdout hs.notStderr ws document {} e hopened
        have hout : e ≠ .targetIsStdout := by
          rintro rfl
          cases he
        have herr : e ≠ .targetIsStderr := by
          rintro rfl
          cases he
        simp [hopened, hout, herr] at h
      | ok target =>
        cases hresult : (target.write settings (openTarget settings ws document).ws).result with
        | error e => simp only [hopened, finish, hresult, reduceCtorEq] at h
        | ok =>
          let written := target.write settings (openTarget settings ws document).ws
          have hwrite : writeDocument settings ws document = .ok (written.ws, written.target) := by
            simp only [writeDocument, hopened, hresult, ok_bind]
            rfl
          exact ⟨document, written.ws, written.target, rfl, hwrite⟩

end Run

/-! ## What a written document leaves -/

/-- What is found and what is left where a document is written: the target has some text, of its own or from its
header, and holds the updated one afterwards. -/
structure WritesInto (settings : Settings) (ws : Workspace) (loc : Location) (document : String) (ws' : Workspace)
    (target : Target) (text updated : String) : Prop where
  usable : settings.ensure .marker = .ok ()
  grows : ws.Grows loc ws'
  updatedText : updatedText settings.targetConfig text document = .ok updated
  left : ws'.read (Path.ofLocation loc) = .ok updated
  changed : target.changed = decide (text ≠ updated)
  found : (ws.read (Path.ofLocation loc) = .ok text ∧ (text = updated → ws' = ws)) ∨
    (ws.files.at? loc = none ∧ ∃ header, settings.headerText loc = .ok header ∧ linesOf text = linesOf header)

section Write
variable {settings : Settings} {ws ws' : Workspace} {loc : Location} {document : String} {target : Target}

theorem Target.write_leaves (hmarker : settings.targetConfig.MarkerIsLine) (hloc : ".." ∉ target.location)
    (h : (target.write settings ws).result = .ok ()) :
    settings.ensure .marker = .ok () ∧ ∃ text updated, ws.read (Path.ofLocation target.location) = .ok text ∧
      updatedText settings.targetConfig text target.document = .ok updated ∧
      (target.write settings ws).target.changed = decide (text ≠ updated) ∧
      ws.Grows target.location (target.write settings ws).ws ∧
      (target.write settings ws).ws.read (Path.ofLocation target.location) = .ok updated ∧
      (text = updated → (target.write settings ws).ws = ws) := by
  obtain ⟨husable, text, updated, hread, hupdated, hchanged, hws⟩ := Target.write_eq_ok h
  refine ⟨husable, text, updated, hread, hupdated, hchanged, ?_, Target.read_of_write hmarker hloc hread hupdated h, ?_⟩
  · rcases hws with ⟨-, hws⟩ | ⟨-, files, hfiles, hws⟩
    · rw [hws]
      exact ⟨rfl, .refl _ _⟩
    · rw [hws]
      have hgrows := ws.files.grows_write {} target.location updated
      rw [hfiles] at hgrows
      exact ⟨rfl, hgrows⟩
  · intro hsame
    rcases hws with ⟨-, hws⟩ | ⟨hne, -⟩
    · exact hws
    · exact absurd hsame hne

/-- A document is written into the text of the target, or of its header. -/
theorem writesInto_of_writeDocument (hmarker : settings.targetConfig.MarkerIsLine) (hcwd : ".." ∉ ws.cwd)
    (hloc : targetLocation settings ws = .ok loc)
    (h : writeDocument settings ws document = .ok (ws', target)) :
    ∃ text updated, WritesInto settings ws loc document ws' target text updated := by
  have hdots := notMem_targetLocation hcwd hloc
  obtain ⟨opened, hopened, h⟩ := bind_eq_ok.mp h
  obtain ⟨_, hresult, h⟩ := bind_eq_ok.mp h
  cases h
  have hopens := opens_openTarget settings ws document {}
  generalize openTarget settings ws document = o at hopened hresult hopens ⊢
  cases hopens with
  | refused hws herror hno => cases hopened.symm.trans herror
  | halted hnew hgrows hleft => cases hopened
  | @found loc' entry hloc' hentry =>
    obtain rfl : loc = loc' := Except.ok.inj (hloc.symm.trans hloc')
    cases hopened
    obtain ⟨husable, text, updated, hread, hupdated, hchanged, hgrows, hleft, hsame⟩ :=
      Target.write_leaves hmarker hdots hresult
    exact ⟨text, updated, husable, hgrows, hupdated, hleft, hchanged, .inl ⟨hread, hsame⟩⟩
  | @created loc' files header hnew hmade hheader hstored =>
    obtain rfl : loc = loc' := Except.ok.inj (hloc.symm.trans hnew.location)
    cases hopened
    obtain ⟨husable, text, updated, hread, hupdated, hchanged, hgrows, hleft, -⟩ :=
      Target.write_leaves hmarker hdots hresult
    have hgrows' : ws.Grows loc _ := ⟨hgrows.cwd, hmade.trans hgrows.files⟩
    exact ⟨text, updated, husable, hgrows', hupdated, hleft, hchanged,
      .inr ⟨hnew.missing, header, hheader, linesOf_of_read hdots hstored hread⟩⟩

end Write

/-! ## Whole runs -/

theorem usable_of_targetLocation {settings : Settings} {ws : Workspace} {loc : Location}
    (h : targetLocation settings ws = .ok loc) : settings.ensure .target = .ok () := by
  obtain ⟨_, husable, -⟩ := bind_eq_ok.mp h
  exact husable

theorem targetLocation_of_cwd {settings : Settings} {ws ws' : Workspace} (h : ws'.cwd = ws.cwd) :
    targetLocation settings ws' = targetLocation settings ws := by
  unfold targetLocation Workspace.resolve
  rw [h]

/-- What is asked of a run: the target is a file at a location, and no source of the module; markers are found again
where they were written; a target that is there hides no marker, and a header has none. -/
structure RunsOnFile (ws : Workspace) (parse : Hcl.Parser) (settings : Settings) (loc : Location) : Prop
    extends settings.OnlyWrites where
  closed : ws.files.IsClosed
  cwd : ".." ∉ ws.cwd
  location : targetLocation settings ws = .ok loc
  noSource : ∀ name, loc = ws.resolve settings.modulePath ++ [name] → finishesWith name ".tf" = false
  marker : settings.targetConfig.MarkerIsLine
  document : ∀ document, moduleDocument ws parse settings = .ok document →
    settings.targetConfig.endMarker ∉ linesOf document
  header : ws.files.at? loc = none → ∀ header, settings.headerText loc = .ok header →
    settings.targetConfig.HasNoMarkers header
  first : ∀ text, ws.read (Path.ofLocation loc) = .ok text → settings.targetConfig.HidesNoMarker text

section Runs
variable {ws ws' : Workspace} {parse : Hcl.Parser} {settings : Settings} {loc : Location} {document : String}
  {target : Target} {text updated : String}

theorem RunsOnFile.notMem (hrun : RunsOnFile ws parse settings loc) : ".." ∉ loc :=
  notMem_targetLocation hrun.cwd hrun.location

theorem RunsOnFile.hidesNoMarker (hrun : RunsOnFile ws parse settings loc)
    (hwrites : WritesInto settings ws loc document ws' target text updated) :
    settings.targetConfig.HidesNoMarker text := by
  rcases hwrites.found with ⟨hread, -⟩ | ⟨hnone, header, hheader, hlines⟩
  · exact hrun.first text hread
  · exact ((hrun.header hnone header hheader).of_linesOf hlines).hidesNoMarker

theorem RunsOnFile.updatedText_again (hrun : RunsOnFile ws parse settings loc)
    (hdocument : moduleDocument ws parse settings = .ok document)
    (hwrites : WritesInto settings ws loc document ws' target text updated) :
    updatedText settings.targetConfig updated document = .ok updated :=
  (updatedText_updatedText hrun.marker (hrun.hidesNoMarker hwrites) (hrun.document document hdocument)
    hwrites.updatedText document).trans hwrites.updatedText

theorem RunsOnFile.not_directory (hrun : RunsOnFile ws parse settings loc)
    (hwrites : WritesInto settings ws loc document ws' target text updated) :
    ws.files.at? loc ≠ some .directory := by
  rcases hwrites.found with ⟨hread, -⟩ | ⟨hnone, -⟩
  · obtain ⟨stored, executable, hstored, -⟩ := FileTree.file_of_read hrun.notMem hread
    rw [hstored]
    exact fun h => by cases h
  · rw [hnone]
    exact fun h => by cases h

/-- The target is reported as changed exactly when another file is stored in its place. -/
theorem RunsOnFile.changed_iff (hrun : RunsOnFile ws parse settings loc)
    (hwrites : WritesInto settings ws loc document ws' target text updated) :
    target.verdict = .changed ↔ ws'.files.at? loc ≠ ws.files.at? loc := by
  have hverdict : target.verdict = .changed ↔ text ≠ updated := by
    rw [Target.verdict, hwrites.changed]
    by_cases hsame : text = updated <;> simp [hsame]
  rw [hverdict]
  obtain ⟨stored', executable', hstored', hupdated⟩ := FileTree.file_of_read hrun.notMem hwrites.left
  rcases hwrites.found with ⟨hread, hsame⟩ | ⟨hnone, header, hheader, hlines⟩
  · -- What is read depends on what is stored, so that texts that differ are stored as different files.
    obtain ⟨stored, executable, hstored, htext⟩ := FileTree.file_of_read hrun.notMem hread
    constructor
    · intro hne hat
      rw [hstored', hstored] at hat
      cases hat
      exact hne (htext.trans hupdated.symm)
    · intro hat hsame'
      rw [hsame hsame'] at hat
      exact hat rfl
  · have hno := (hrun.header hnone header hheader).of_linesOf hlines
    refine iff_of_true (hno.ne_updated hrun.marker hwrites.updatedText) ?_
    rw [hstored', hnone]
    exact Option.some_ne_none _

theorem RunsOnFile.writeDocument_again (hrun : RunsOnFile ws parse settings loc)
    (hdocument : moduleDocument ws parse settings = .ok document)
    (hwrites : WritesInto settings ws loc document ws' target text updated) (next : String) :
    ∃ ws'' target' updated', writeDocument settings ws' next = .ok (ws'', target') ∧
      updatedText settings.targetConfig updated next = .ok updated' ∧
      target'.changed = decide (updated ≠ updated') ∧ (updated = updated' → ws'' = ws') := by
  have hloc' : targetLocation settings ws' = .ok loc :=
    (targetLocation_of_cwd hwrites.grows.cwd).trans hrun.location
  have hcwd' : ".." ∉ ws'.cwd := hwrites.grows.cwd ▸ hrun.cwd
  have hfile : settings.WritesFile :=
    ⟨usable_of_targetLocation hrun.location, hwrites.usable, hrun.notStdout, hrun.notStderr⟩
  obtain ⟨updated', hupdated'⟩ := updatedText_ok_of_ok (hrun.updatedText_again hdocument hwrites) next
  obtain ⟨ws'', target', hwrite, -, -, hchanged, hws⟩ := writeDocument_step hfile hrun.marker hcwd'
    (targetText_eq_ok.mpr ⟨loc, hloc', hwrites.left⟩) hupdated'
  exact ⟨ws'', target', updated', hwrite, hupdated', hchanged, hws⟩

theorem RunsOnFile.run_again (hrun : RunsOnFile ws parse settings loc)
    (hback : ws.NoNewSteps ws' settings.modulePath) (hconfig : settings.ensure .configFile = .ok ())
    (hdocument : moduleDocument ws parse settings = .ok document)
    (hwrites : WritesInto settings ws loc document ws' target text updated) :
    runOnce ws' parse settings = { ws := ws', verdict := .ok .unchanged } := by
  have hdocument' : moduleDocument ws' parse settings = .ok document :=
    (moduleDocument_of_grows hwrites.grows (hrun.not_directory hwrites) hrun.closed hback hrun.noSource parse).trans
      hdocument
  obtain ⟨ws'', target', updated', hwrite, hupdated', hchanged, hws⟩ :=
    hrun.writeDocument_again hdocument hwrites document
  cases hupdated'.symm.trans (hrun.updatedText_again hdocument hwrites)
  have hverdict : target'.verdict = .unchanged := by
    rw [Target.verdict, hchanged]
    simp
  rw [runOnce_of_writeDocument hrun.toOnlyWrites hconfig hdocument' hwrite, hws rfl, hverdict]

theorem RunsOnFile.run_again_changed (hrun : RunsOnFile ws parse settings loc) {verdict : Verdict}
    (h : (runOnce ws parse settings).verdict = .ok verdict)
    (hdocument : moduleDocument ws parse settings = .ok document) {next : String}
    (hnext : moduleDocument (runOnce ws parse settings).ws parse settings = .ok next)
    (hne : linesOf next ≠ linesOf document) :
    (runOnce (runOnce ws parse settings).ws parse settings).verdict = .ok .changed := by
  obtain ⟨hconfig, document', ws', target, hdocument', hwrite⟩ := runOnce_eq_ok hrun.toOnlyWrites h
  cases hdocument.symm.trans hdocument'
  rw [runOnce_of_writeDocument hrun.toOnlyWrites hconfig hdocument hwrite] at hnext ⊢
  obtain ⟨text, updated, hwrites⟩ := writesInto_of_writeDocument hrun.marker hrun.cwd hrun.location hwrite
  obtain ⟨ws'', target', updated', hwrite', hupdated', hchanged, -⟩ :=
    hrun.writeDocument_again hdocument hwrites next
  have hother : updated ≠ updated' := by
    rintro rfl
    exact hne (linesOf_eq_of_updatedText hrun.marker hupdated' (hrun.updatedText_again hdocument hwrites))
  rw [runOnce_of_writeDocument hrun.toOnlyWrites hconfig hnext hwrite', Target.verdict, hchanged]
  simp [hother]

/-- A run that ends without a failure leaves a target that is up to date with the module, and reports a change exactly
when the stored target is another one. If the run makes nothing that the path of the module steps back from, a second
run reports no change and leaves everything as it is. -/
theorem runOnce_settles (hrun : RunsOnFile ws parse settings loc) {verdict : Verdict}
    (h : (runOnce ws parse settings).verdict = .ok verdict) :
    (∃ document text, moduleDocument ws parse settings = .ok document ∧
      (runOnce ws parse settings).ws.read (Path.ofLocation loc) = .ok text ∧
      updatedText settings.targetConfig text document = .ok text) ∧
    (verdict = .changed ↔ (runOnce ws parse settings).ws.files.at? loc ≠ ws.files.at? loc) ∧
    (ws.NoNewSteps (runOnce ws parse settings).ws settings.modulePath →
      runOnce (runOnce ws parse settings).ws parse settings =
        { ws := (runOnce ws parse settings).ws, verdict := .ok .unchanged }) := by
  obtain ⟨hconfig, document, ws', target, hdocument, hwrite⟩ := runOnce_eq_ok hrun.toOnlyWrites h
  rw [runOnce_of_writeDocument hrun.toOnlyWrites hconfig hdocument hwrite] at h ⊢
  cases h
  obtain ⟨text, updated, hwrites⟩ := writesInto_of_writeDocument hrun.marker hrun.cwd hrun.location hwrite
  exact ⟨⟨document, updated, hdocument, hwrites.left, hrun.updatedText_again hdocument hwrites⟩,
    hrun.changed_iff hwrites, fun hback => hrun.run_again hback hconfig hdocument hwrites⟩

end Runs

/-! ## Modules with one local -/

def localText : String := "locals \x7b\n  a = 1\n\x7d\n"

def localParser : Hcl.Parser := fun _ => .ok (.map [("locals", .list [.map [("a", .int 1)]])])

/-- A module beside the current directory, with a target whose lines end with two characters. -/
def localModule : Workspace where
  cwd := ["w", "tests"]
  files := ⟨[(["w"], .directory), (["w", "tests"], .directory), (["w", "mod"], .directory),
    (["w", "mod", "main.tf"], .file localText false),
    (["w", "mod", "README.md"], .file "# M\r\n<!-- D START -->\r\n<!-- D END -->\r\n" false)]⟩

def besideSettings : Settings where
  modulePath := Path.ofText "../mod"
  targetConfig := { marker := "D", heading := "M" }
  format := { includeLocals := false }

theorem runsOnFile_localModule :
    RunsOnFile localModule localParser besideSettings ["w", "mod", "README.md"] where
  noDump := rfl
  noStaging := rfl
  notStdout := by decide
  notStderr := by decide
  closed := by decide +kernel
  cwd := by decide
  location := by decide +kernel
  noSource := by
    intro name h
    have hresolve : localModule.resolve besideSettings.modulePath = ["w", "mod"] := by decide +kernel
    rw [hresolve] at h
    cases h
    decide +kernel
  marker := by
    unfold TargetSettings.MarkerIsLine
    decide +kernel
  document := forall_of_toOption_all (by decide +kernel)
  header := fun hnone => absurd hnone (by decide +kernel)
  first := forall_of_toOption_all (by decide +kernel)

/-- One run brings the target of such a module up to date. -/
theorem runOnce_settles_beside :
    (runOnce localModule localParser besideSettings).verdict = .ok .changed ∧
      (runOnce localModule localParser besideSettings).ws.files.at? ["w", "mod", "README.md"] ≠
        localModule.files.at? ["w", "mod", "README.md"] ∧
      runOnce (runOnce localModule localParser besideSettings).ws localParser besideSettings =
        { ws := (runOnce localModule localParser besideSettings).ws, verdict := .ok .unchanged } := by
  have hverdict : (runOnce localModule localParser besideSettings).verdict = .ok .changed := by decide +kernel
  obtain ⟨-, hchanged, hagain⟩ := runOnce_settles runsOnFile_localModule hverdict
  have hmodule : localModule.files.walk localModule.cwd besideSettings.modulePath.names =
      .ok (["w", "mod"], .directory) := by decide +kernel
  exact ⟨hverdict, hchanged.mp rfl, hagain (FileTree.noNewSteps_of_walk hmodule _)⟩

/-- A module whose path steps back from a directory that is not there. -/
def hiddenModule : Workspace where
  cwd := ["w"]
  files := ⟨[(["w"], .directory), (["w", "mod"], .directory), (["w", "mod", "main.tf"], .file localText false)]⟩

def hiddenSettings : Settings where
  modulePath := Path.ofText "new/../mod"
  target := "./new/README.md"
  targetConfig := { marker := "D", heading := "M", emptyHeader := "# \x7bmodule\x7d\n" }
  format := { collapsibleSections := false }

theorem runsOnFile_hiddenModule :
    RunsOnFile hiddenModule localParser hiddenSettings ["w", "new", "README.md"] where
  noDump := rfl
  noStaging := rfl
  notStdout := by decide
  notStderr := by decide
  closed := by decide +kernel
  cwd := by decide
  location := by decide +kernel
  noSource := by
    intro name h
    have hresolve : hiddenModule.resolve hiddenSettings.modulePath = ["w", "mod"] := by decide +kernel
    rw [hresolve] at h
    exact absurd h (by simp)
  marker := by
    unfold TargetSettings.MarkerIsLine
    decide +kernel
  document := forall_of_toOption_all (by decide +kernel)
  header := fun _ => forall_of_toOption_all (by decide +kernel)
  first := forall_of_toOption_all (by decide +kernel)

/-- Two runs in a row can both change the target: the first one finds no module, and makes the directory by which the
second one finds it. -/
theorem runOnce_changes_twice :
    RunsOnFile hiddenModule localParser hiddenSettings ["w", "new", "README.md"] ∧
      (runOnce hiddenModule localParser hiddenSettings).verdict = .ok .changed ∧
      (runOnce (runOnce hiddenModule localParser hiddenSettings).ws localParser hiddenSettings).verdict =
        .ok .changed := by
  have hverdict : (runOnce hiddenModule localParser hiddenSettings).verdict = .ok .changed := by decide +kernel
  obtain ⟨document, hdocument, hlines⟩ : ∃ document,
      moduleDocument hiddenModule localParser hiddenSettings = .ok document ∧ (linesOf document).length = 4 :=
    exists_of_toOption_any (by decide +kernel)
  obtain ⟨next, hnext, hlines'⟩ : ∃ next,
      moduleDocument (runOnce hiddenModule localParser hiddenSettings).ws localParser hiddenSettings = .ok next ∧
        (linesOf next).length = 10 :=
    exists_of_toOption_any (by decide +kernel)
  refine ⟨runsOnFile_hiddenModule, hverdict, runsOnFile_hiddenModule.run_again_changed hverdict hdocument hnext ?_⟩
  intro h
  rw [h, hlines] at hlines'
  cases hlines'

end ModuleDocs
