import ModuleDocs.Proofs.TargetEffect

/-! # What a failure leaves behind

A target is opened, and made if it is missing, before the document is written to it. Either can fail, also because the
disk refuses a directory or a file or breaks a text off. Nothing is taken back: what was made stays, and a file whose
new text was broken off has lost its old one. Everything else is left as it was (`failure_keeps`). -/
set_option autoImplicit false

namespace ModuleDocs

/-- The steps in which a document gets into its target. -/
inductive Phase where
  | opening
  | writing
deriving Repr, DecidableEq

/-- The workspace that a failure leaves, on the disk that it happens on, of opening the target for a document or of
writing the document to it. The disk may have been another one when the target was opened. -/
inductive FailsWith (settings : Settings) (ws : Workspace) (document : String) (disk : Disk) : Phase → Workspace → Prop
  | opening {e : Error} (h : (openTarget settings ws document disk).result = .error e) :
      FailsWith settings ws document disk .opening (openTarget settings ws document disk).ws
  | writing {before : Disk} {target : Target} {e : Error}
      (hopen : (openTarget settings ws document before).result = .ok target)
      (h : (target.write settings (openTarget settings ws document before).ws disk).result = .error e) :
      FailsWith settings ws document disk .writing
        (target.write settings (openTarget settings ws document before).ws disk).ws

/-- What a failure leaves at a location at which nothing was and the target was to be made. -/
inductive Leftover (settings : Settings) (loc : Location) (document : String) (disk : Disk) (tree : FileTree) :
    Phase → Prop
  | missing (h : tree.at? loc = none) : Leftover settings loc document disk tree .opening
  | empty (h : tree.at? loc = some (.file "" false)) : Leftover settings loc document disk tree .opening
  | partOfHeader (h : disk.BreaksOff loc (settings.headerText loc) false tree) :
      Leftover settings loc document disk tree .opening
  | header {header : String} (hheader : settings.headerText loc = .ok header)
      (h : tree.at? loc = some (.file header false)) : Leftover settings loc document disk tree .writing
  | partOfText {header : String} (hheader : settings.headerText loc = .ok header)
      (h : disk.BreaksOff loc (updatedText settings.targetConfig header document) false tree) :
      Leftover settings loc document disk tree .writing

/-- What a failure leaves of a workspace. -/
structure Aftermath (settings : Settings) (ws : Workspace) (document : String) (disk : Disk) (phase : Phase)
    (after : Workspace) : Prop where
  -- Only the target can lose what it holds, to the beginning of the text that was to replace it.
  kept : ∀ other entry, ws.files.at? other = some entry → after.files.at? other = some entry ∨
    phase = .writing ∧ targetLocation settings ws = .ok other ∧ ∃ old executable, entry = .file old executable ∧
      disk.BreaksOff other (updatedText settings.targetConfig old document) executable after.files
  added : ∀ other entry, ws.files.at? other = none → after.files.at? other = some entry →
    ∃ loc, settings.MissesTarget ws loc ∧ (other = loc ∨ entry = .directory ∧ other <+: loc)
  same : (∀ loc, ¬ settings.MissesTarget ws loc) →
    (phase = .opening ∨ ∀ loc text, disk.room loc text = none) → after = ws
  leftover : ∀ loc, settings.MissesTarget ws loc → Leftover settings loc document disk after.files phase

section Failures
variable {settings : Settings} {ws after : Workspace} {document : String} {disk : Disk} {phase : Phase}

theorem not_missesTarget {loc : Location} {entry : Entry} (hloc : targetLocation settings ws = .ok loc)
    (hentry : ws.files.at? loc = some entry) (other : Location) : ¬ settings.MissesTarget ws other := by
  intro hnew
  obtain rfl : loc = other := Except.ok.inj (hloc.symm.trans hnew.location)
  cases hnew.missing.symm.trans hentry

theorem aftermath_refl (hno : ∀ loc, ¬ settings.MissesTarget ws loc) (document : String) (disk : Disk)
    (phase : Phase) : Aftermath settings ws document disk phase ws where
  kept _ _ hentry := .inl hentry
  added _ _ hnone hentry := by cases hnone.symm.trans hentry
  same _ _ := rfl
  leftover loc hnew := absurd hnew (hno loc)

theorem aftermath_of_grows {loc : Location} (hnew : settings.MissesTarget ws loc) {opened : FileTree}
    (hgrows : ws.files.Grows loc opened) (hothers : ∀ other, other ≠ loc → after.files.at? other = opened.at? other)
    (hleft : Leftover settings loc document disk after.files phase) :
    Aftermath settings ws document disk phase after where
  kept other entry hentry := by
    have hne : other ≠ loc := by
      rintro rfl
      cases hnew.missing.symm.trans hentry
    exact .inl ((hothers other hne).trans (hgrows.kept hne hentry))
  added other entry hnone hentry := by
    refine ⟨loc, hnew, ?_⟩
    by_cases hne : other = loc
    · exact .inl hne
    · rw [hothers other hne] at hentry
      rcases hgrows.added hne hentry with hold | ⟨-, hdir, hlead⟩
      · cases hnone.symm.trans hold
      · exact .inr ⟨hdir, hlead⟩
  same hno _ := absurd hnew (hno loc)
  leftover other hother := by
    obtain rfl : loc = other := Except.ok.inj (hnew.location.symm.trans hother.location)
    exact hleft

/-- A write that fails in a target that was there. -/
theorem aftermath_write {target : Target} {e : Error} (hno : ∀ loc, ¬ settings.MissesTarget ws loc)
    (hloc : targetLocation settings ws = .ok target.location) (hdots : ".." ∉ target.location)
    (h : (target.write settings ws disk).result = .error e) :
    Aftermath settings ws target.document disk .writing (target.write settings ws disk).ws := by
  rcases Target.write_eq_error hdots h with hws | ⟨old, executable, hold, hbreaks, hothers⟩
  · rw [hws]
    exact aftermath_refl hno target.document disk .writing
  · constructor
    case kept =>
      intro other entry hentry
      by_cases hother : other = target.location
      · subst hother
        cases hold.symm.trans hentry
        exact .inr ⟨rfl, hloc, old, executable, rfl, hbreaks⟩
      · exact .inl ((hothers other hother).trans hentry)
    case added =>
      intro other entry hnone hentry
      have hother : other ≠ target.location := by
        rintro rfl
        cases hold.symm.trans hnone
      cases hnone.symm.trans ((hothers other hother).symm.trans hentry)
    case same =>
      rintro - (hphase | hroom)
      · cases hphase
      · obtain ⟨whole, n, -, hn, -⟩ := hbreaks
        cases (hroom _ whole).symm.trans hn
    case leftover =>
      intro loc hnew
      exact absurd hnew (hno loc)

/-- A failure leaves all files and directories as they were, except for a target that was there and whose new text the
disk has broken off. Where the target was missing, it and directories on the way to it can be new, and nothing else;
where it was not and the disk has room, nothing at all has changed. -/
theorem failure_keeps (hcwd : ".." ∉ ws.cwd) (h : FailsWith settings ws document disk phase after) :
    Aftermath settings ws document disk phase after := by
  cases h with
  | opening h =>
    have hopens := opens_openTarget settings ws document disk
    generalize openTarget settings ws document disk = opened at hopens h ⊢
    cases hopens with
    | refused hws herror hno =>
      rw [hws]
      exact aftermath_refl hno document disk .opening
    | found hloc hentry => cases h
    | halted hnew hgrows hleft =>
      refine aftermath_of_grows hnew hgrows (fun _ _ => rfl) ?_
      rcases hleft with hnone | hempty | hpart
      · exact .missing hnone
      · exact .empty hempty
      · exact .partOfHeader hpart
    | created hnew hgrows hheader hstored => cases h
  | @writing before target e hopen h =>
    have hopens := opens_openTarget settings ws document before
    generalize openTarget settings ws document before = opened at hopens hopen h ⊢
    cases hopens with
    | refused hws herror hno => cases hopen.symm.trans herror
    | found hloc hentry =>
      cases hopen
      exact aftermath_write (not_missesTarget hloc hentry) hloc (notMem_targetLocation hcwd hloc) h
    | halted hnew hgrows hleft => cases hopen
    | created hnew hgrows hheader hstored =>
      cases hopen
      rcases Target.write_eq_error (notMem_targetLocation hcwd hnew.location) h with
        hws | ⟨old, executable, hold, hbreaks, hothers⟩
      · rw [hws]
        exact aftermath_of_grows hnew hgrows (fun _ _ => rfl) (.header hheader hstored)
      · cases hstored.symm.trans hold
        exact aftermath_of_grows hnew hgrows hothers (.partOfText hheader hbreaks)

end Failures

/-! ## Failures that leave traces -/

def markedTarget : Settings where
  targetConfig := { marker := "D" }

def markedWorkspace : Workspace where
  cwd := ["m"]
  files := ⟨[(["m"], .directory), (["m", "README.md"], .file "# M\n" false)]⟩

def fullDisk : Disk where
  room _ _ := some 0

theorem write_fullDisk : ∃ target, (openTarget markedTarget markedWorkspace "one").result = .ok target ∧
    (target.write markedTarget (openTarget markedTarget markedWorkspace "one").ws fullDisk).result =
      .error .diskFailure ∧
    (target.write markedTarget (openTarget markedTarget markedWorkspace "one").ws fullDisk).ws.files.at?
      ["m", "README.md"] = some (.file "" false) :=
  exists_of_toOption_any (by decide +kernel)

/-- On a full disk, the text of a target is lost, and nothing else. -/
theorem failure_keeps_fullDisk : ".." ∉ markedWorkspace.cwd ∧
    ∃ after, FailsWith markedTarget markedWorkspace "one" fullDisk .writing after ∧
      Aftermath markedTarget markedWorkspace "one" fullDisk .writing after ∧
      after.files.at? ["m"] = some .directory ∧ after.files.at? ["m", "README.md"] = some (.file "" false) := by
  have hcwd : ".." ∉ markedWorkspace.cwd := by decide +kernel
  obtain ⟨target, hopen, hwrite, hlost⟩ := write_fullDisk
  have hfails : FailsWith markedTarget markedWorkspace "one" fullDisk .writing _ := .writing hopen hwrite
  have hafter := failure_keeps hcwd hfails
  refine ⟨hcwd, _, hfails, hafter, ?_, hlost⟩
  rcases hafter.kept ["m"] .directory (by decide +kernel) with h | ⟨-, -, old, executable, h, -⟩
  · exact h
  · cases h

/-- A header that ends a region which it never starts, for a target in a directory that is not there. -/
def strayHeader : Settings where
  target := "docs/README.md"
  targetConfig := { marker := "D", emptyHeader := "# \x7bmodule\x7d\n<!-- D END -->\n" }

def bareWorkspace : Workspace where
  cwd := ["m"]
  files := ⟨[(["m"], .directory)]⟩

theorem write_strayHeader : ∃ target, (openTarget strayHeader bareWorkspace "one").result = .ok target ∧
    (target.write strayHeader (openTarget strayHeader bareWorkspace "one").ws).result = .error .invalidMarkers ∧
    (target.write strayHeader (openTarget strayHeader bareWorkspace "one").ws).ws.files.at?
      ["m", "docs", "README.md"] = some (.file "# README\n<!-- D END -->\n" false) :=
  exists_of_toOption_any (by decide +kernel)

/-- A failure does not take a target back that was not there before. -/
theorem failure_leaves_target : ∃ after, FailsWith strayHeader bareWorkspace "one" {} .writing after ∧
    bareWorkspace.files.at? ["m", "docs", "README.md"] = none ∧
    after.files.at? ["m", "docs", "README.md"] = some (.file "# README\n<!-- D END -->\n" false) := by
  obtain ⟨target, hopen, hwrite, hmade⟩ := write_strayHeader
  exact ⟨_, .writing hopen hwrite, by decide +kernel, hmade⟩

end ModuleDocs
