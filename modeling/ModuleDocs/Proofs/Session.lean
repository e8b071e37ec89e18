import ModuleDocs.Proofs.TargetEffect

/-! # Calls on an open target

An open target can be written and its change can be reported, any number of times and in any order. A report compares
with the text that the last write has found; a target that was made when it was opened needs none. So a report fails on
a target that was there and that no write has read yet, and in no other case (`report_isOk_iff`). -/
set_option autoImplicit false

namespace ModuleDocs

/-- What can be asked of an open target. -/
inductive Call where
  | write
  | report
deriving Repr, DecidableEq

/-- An open target, and the workspace that it is in. -/
structure Session where
  ws : Workspace
  target : Target
deriving Repr, DecidableEq

def openSession (settings : Settings) (ws : Workspace) (document : String) : Except Error Session :=
  let opened := openTarget settings ws document
  opened.result.map fun target => ⟨opened.ws, target⟩

namespace Session

/-- What is left after a call, also after one that fails, and what the call prints. -/
def call (settings : Settings) (s : Session) : Call → Session × Except Error String
  | .write =>
    let written := s.target.write settings s.ws
    (⟨written.ws, written.target⟩, written.result.map fun _ => "")
  | .report => (s, s.target.report settings)

/-- What is left after some calls. -/
def run (settings : Settings) (s : Session) : List Call → Session
  | [] => s
  | c :: more => (s.call settings c).1.run settings more

/-- The target was made when it was opened, or its text has been read. -/
def Knows (s : Session) : Prop := s.target.before ≠ .unread

def IsReadable (s : Session) : Prop := ∃ text, s.ws.read (Path.ofLocation s.target.location) = .ok text

/-! ## Single calls -/

theorem call_write_of_not_isReadable {settings : Settings} {s : Session} (h : ¬ s.IsReadable) :
    (s.call settings .write).1 = s := by
  cases hread : s.ws.read (Path.ofLocation s.target.location) with
  | ok text => exact absurd ⟨text, hread⟩ h
  | error e => simp only [call, Target.write, hread]

theorem knows_call_write {settings : Settings} {s : Session} (h : s.IsReadable) :
    (s.call settings .write).1.Knows := by
  obtain ⟨text, hread⟩ := h
  have hbefore : (s.target.write settings s.ws).target.before = .text text := by
    simp only [Target.write, hread]
    split
    · rfl
    · split
      · rfl
      · split <;> rfl
  rw [Knows, call, hbefore]
  exact Before.noConfusion

/-- A report succeeds where there is something to compare with, or no need to. -/
theorem call_report_isOk_iff {settings : Settings} (hs : settings.IsChecked) (s : Session) :
    (∃ printed, (s.call settings .report).2 = .ok printed) ↔ s.Knows := by
  unfold Knows call Target.report
  cases s.target.before with
  | unread => simp
  | created => simp
  | text before =>
    dsimp only
    split <;> simp [Settings.ensure_of_isChecked hs, ok_bind, pure, Except.pure]

theorem call_report_of_not_knows {settings : Settings} {s : Session} (h : ¬ s.Knows) :
    (s.call settings .report).2 = .error .nothingToCompare := by
  have hbefore : s.target.before = .unread := not_not.mp h
  simp only [call, Target.report, hbefore]

/-! ## All calls -/

/-- The first write that can read the target is enough, and no later call takes back what is known. -/
theorem knows_run_iff (settings : Settings) (s : Session) (calls : List Call) :
    (s.run settings calls).Knows ↔ s.Knows ∨ .write ∈ calls ∧ s.IsReadable := by
  induction calls generalizing s with
  | nil => simp [run]
  | cons c calls ih =>
    rw [run, ih]
    cases c with
    | report => simp [call]
    | write =>
      by_cases hread : s.IsReadable
      · exact iff_of_true (.inl (knows_call_write hread)) (.inr ⟨List.mem_cons_self, hread⟩)
      · simp only [call_write_of_not_isReadable hread, hread, and_false]

/-- A report that is asked for after some calls succeeds. -/
def Reports (settings : Settings) (s : Session) (calls : List Call) : Prop :=
  ∃ printed, ((s.run settings calls).call settings .report).2 = .ok printed

theorem reports_iff {settings : Settings} (hs : settings.IsChecked) (s : Session) (calls : List Call) :
    s.Reports settings calls ↔ s.Knows ∨ .write ∈ calls ∧ s.IsReadable := by
  rw [Reports, call_report_isOk_iff hs, knows_run_iff]

theorem call_report_of_not_reports {settings : Settings} (hs : settings.IsChecked) {s : Session} {calls : List Call}
    (h : ¬ s.Reports settings calls) :
    ((s.run settings calls).call settings .report).2 = .error .nothingToCompare := by
  rw [Reports, call_report_isOk_iff hs] at h
  exact call_report_of_not_knows h

end Session

/-! ## Opened targets -/

/-- A target is known after it was opened if it was made; otherwise the workspace is as it was. -/
theorem openSession_eq_ok {settings : Settings} {ws : Workspace} {document : String} {s : Session}
    (h : openSession settings ws document = .ok s) :
    s.Knows ∧ ws.files.at? s.target.location = none ∨
      ¬ s.Knows ∧ ws.files.at? s.target.location ≠ none ∧ s.ws = ws := by
  obtain ⟨target, htarget, rfl⟩ := map_eq_ok.mp h
  have hopens := opens_openTarget settings ws document {}
  generalize openTarget settings ws document = opened at hopens htarget
  cases hopens with
  | refused hws herror hno => cases herror.symm.trans htarget
  | found hloc hentry =>
    cases htarget
    exact .inr ⟨fun h => h rfl, by simp [hentry], rfl⟩
  | halted hnew hgrows hleft => cases htarget
  | created hnew hgrows hheader hstored =>
    cases htarget
    exact .inl ⟨Before.noConfusion, hnew.missing⟩

/-- A report succeeds after any calls whatever exactly if the target was made when it was opened. On a target that was
there it succeeds after those calls that have a write among them, if the target can be read; it fails after the others,
with nothing to compare. -/
theorem report_isOk_iff {settings : Settings} (hs : settings.IsChecked) {ws : Workspace} {document : String}
    {s : Session} (hopen : openSession settings ws document = .ok s) :
    ((∀ calls, s.Reports settings calls) ↔ ws.files.at? s.target.location = none) ∧
    ∀ calls,
      (s.Reports settings calls ↔ ws.files.at? s.target.location = none ∨
        .write ∈ calls ∧ ∃ text, ws.read (Path.ofLocation s.target.location) = .ok text) ∧
      (¬ s.Reports settings calls →
        ((s.run settings calls).call settings .report).2 = .error .nothingToCompare) := by
  have hreports : ∀ calls, s.Reports settings calls ↔ ws.files.at? s.target.location = none ∨
      .write ∈ calls ∧ ∃ text, ws.read (Path.ofLocation s.target.location) = .ok text := by
    intro calls
    rw [Session.reports_iff hs]
    rcases openSession_eq_ok hopen with ⟨hknows, hnone⟩ | ⟨hunknown, hsome, hws⟩
    · exact iff_of_true (.inl hknows) (.inl hnone)
    · rw [or_iff_right hunknown, or_iff_right hsome, Session.IsReadable, hws]
  refine ⟨⟨fun hall => ?_, fun hnone calls => (hreports calls).mpr (.inl hnone)⟩, fun calls => ?_⟩
  · -- No call before the report: nothing can have read the target.
    exact ((hreports []).mp (hall [])).resolve_right fun h => absurd h.1 List.not_mem_nil
  · exact ⟨hreports calls, Session.call_report_of_not_reports hs⟩

/-- A target that was there is written between two reports, and the second of them prints the change. -/
theorem report_isOk_readme : ∃ s, openSession { debug := true } readmeWorkspace "one" = .ok s ∧
    s.Reports { debug := true } [.report, .write, .report] ∧
    ((s.run { debug := true } []).call { debug := true } .report).2 = .error .nothingToCompare := by
  have hs : Settings.IsChecked { debug := true } := rfl
  obtain ⟨s, hopen, hloc⟩ : ∃ s, openSession { debug := true } readmeWorkspace "one" = .ok s ∧
      s.target.location = ["m", "README.md"] := exists_of_toOption_any (by decide +kernel)
  have hread : readmeWorkspace.read (Path.ofLocation s.target.location) = .ok readmeText := by
    rw [hloc]
    decide +kernel
  have hthere : readmeWorkspace.files.at? s.target.location ≠ none := by
    rw [hloc]
    decide +kernel
  obtain ⟨-, hcalls⟩ := report_isOk_iff hs hopen
  refine ⟨s, hopen, (hcalls _).1.mpr (.inr ⟨by decide, readmeText, hread⟩), (hcalls []).2 fun h => ?_⟩
  exact ((hcalls []).1.mp h).elim hthere fun h => absurd h.1 List.not_mem_nil

/-- A report that comes before any write, on a target that was there. -/
theorem not_reports_unread :
    ∃ s, openSession {} readmeWorkspace "one" = .ok s ∧ ¬ ∀ calls, s.Reports {} calls := by
  obtain ⟨s, hopen, hreport⟩ : ∃ s, openSession {} readmeWorkspace "one" = .ok s ∧
      (s.call {} .report).2 = .error .nothingToCompare := exists_of_toOption_any (by decide +kernel)
  refine ⟨s, hopen, fun h => ?_⟩
  obtain ⟨printed, hprinted⟩ := h []
  cases hreport.symm.trans hprinted

end ModuleDocs
