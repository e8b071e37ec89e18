import ModuleDocs.Proofs.Growth
import ModuleDocs.Proofs.Target
import ModuleDocs.Proofs.Template

/-! # What opening and writing do

All that opening a target can do, on any disk, is listed once (`Opens`). A target that is made grows the tree by its
file (`grows_makeTarget`); where that fails, its file is missing or empty, or the disk has broken its header off
(`makeTarget_cases`). A write that fails has done nothing, or the disk has broken off what it writes
(`Target.write_eq_error`). -/
set_option autoImplicit false

namespace ModuleDocs

/-! ## Making a target -/

/-- A disk has broken a text off, and in its place the file at a location holds the beginning of it. -/
def Disk.BreaksOff (disk : Disk) (loc : Location) (text : Except Error String) (executable : Bool) (tree : FileTree) :
    Prop :=
  ∃ whole n, text = .ok whole ∧ disk.room loc whole = some n ∧
    tree.at? loc = some (.file (FileTree.beginning n whole) executable)

section Make
variable {settings : Settings} {tree : FileTree} {loc : Location} {disk : Disk}

theorem grows_makeTarget (settings : Settings) (tree : FileTree) (hloc : loc ≠ []) (disk : Disk) :
    tree.Grows loc (FileTree.after (makeTarget settings tree loc disk)) := by
  have hcut : loc = [] ++ loc.dropLast ++ [loc.getLast hloc] := by
    rw [List.nil_append, List.dropLast_concat_getLast hloc]
  refine (FileTree.grows_makeDirectories tree disk hcut).1.bind fun dirs => ?_
  refine (dirs.grows_touch disk hloc).bind fun files => ?_
  split
  · exact .refl loc files
  · exact files.grows_write disk loc _

variable (settings) in
theorem makeTarget_of_touched {files : FileTree} (hdirs : tree.makeDirectories [] loc.dropLast disk = .ok files)
    (hadmits : disk.admits loc = true) (hloc : loc ≠ []) :
    ∃ touched : FileTree, touched.at? loc = some (.file "" false) ∧ makeTarget settings tree loc disk =
      match settings.headerText loc with
      | .error e => .error ⟨e, touched⟩
      | .ok header => touched.store loc false header disk := by
  have htouch : files.touch loc disk = .ok (files.put loc (.file "" false)) := if_pos hadmits
  have hempty : (files.put loc (.file "" false)).at? loc = some (.file "" false) :=
    (FileTree.at?_put files hloc _ loc).trans (if_pos rfl)
  refine ⟨_, hempty, ?_⟩
  rw [makeTarget, hdirs, ok_bind, htouch, ok_bind]
  cases settings.headerText loc with
  | error e => rfl
  | ok header => exact FileTree.write_of_file hempty header disk

variable (settings disk) in
/-- A target is missing while its directories are made, then empty, and at the end it has its header. -/
theorem makeTarget_cases (hloc : loc ≠ []) (hnone : tree.at? loc = none) :
    (∃ stop, makeTarget settings tree loc disk = .error stop ∧
      (stop.tree.at? loc = none ∨ stop.tree.at? loc = some (.file "" false) ∨
        disk.BreaksOff loc (settings.headerText loc) false stop.tree)) ∨
    ∃ files header, makeTarget settings tree loc disk = .ok files ∧ settings.headerText loc = .ok header ∧
      files.at? loc = some (.file header false) := by
  have hcut : loc = [] ++ loc.dropLast ++ [loc.getLast hloc] := by
    rw [List.nil_append, List.dropLast_concat_getLast hloc]
  have hmissing := (FileTree.grows_makeDirectories tree disk hcut).2.trans hnone
  cases hdirs : tree.makeDirectories [] loc.dropLast disk with
  | error stop =>
    rw [hdirs] at hmissing
    refine .inl ⟨stop, ?_, .inl hmissing⟩
    rw [makeTarget, hdirs]
    rfl
  | ok dirs =>
    rw [hdirs] at hmissing
    by_cases hadmits : disk.admits loc = true
    · obtain ⟨touched, hempty, hmake⟩ := makeTarget_of_touched settings hdirs hadmits hloc
      have hput : ∀ entry, (touched.put loc entry).at? loc = some entry :=
        fun entry => (FileTree.at?_put touched hloc entry loc).trans (if_pos rfl)
      rw [hmake]
      cases hheader : settings.headerText loc with
      | error e => exact .inl ⟨_, rfl, .inr (.inl hempty)⟩
      | ok header =>
        dsimp only
        obtain hstore | hstore | ⟨n, hroom, hstore⟩ := touched.store_cases disk loc false header
        · exact .inl ⟨_, hstore, .inr (.inl hempty)⟩
        · exact .inr ⟨_, header, hstore, rfl, hput _⟩
        · exact .inl ⟨_, hstore, .inr (.inr ⟨header, n, rfl, hroom, hput _⟩)⟩
    · refine .inl ⟨⟨.diskFailure, dirs⟩, ?_, .inl hmissing⟩
      have htouch : dirs.touch loc disk = .error ⟨.diskFailure, dirs⟩ := if_neg hadmits
      rw [makeTarget, hdirs, ok_bind, htouch]
      rfl

end Make

/-! ## Opening -/

/-- The target of the settings is a file at a location at which nothing is. -/
structure Settings.MissesTarget (settings : Settings) (ws : Workspace) (loc : Location) : Prop where
  usable : settings.ensure .target = .ok ()
  notStdout : isStdout settings.target = false
  notStderr : isStderr settings.target = false
  location : targetLocation settings ws = .ok loc
  missing : ws.files.at? loc = none

theorem Settings.MissesTarget.ne_nil {settings : Settings} {ws : Workspace} {loc : Location}
    (h : settings.MissesTarget ws loc) : loc ≠ [] := by
  rintro rfl
  cases h.missing

/-- What can come of opening a target: it is refused and nothing is done; it is there; or it is made, unless its header
or the disk halts that. -/
inductive Opens (settings : Settings) (ws : Workspace) (document : String) (disk : Disk) : Opened → Prop
  | refused {opened : Opened} {e : Error} (hws : opened.ws = ws) (herror : opened.result = .error e)
      (hno : ∀ loc, ¬ settings.MissesTarget ws loc) : Opens settings ws document disk opened
  | found {loc : Location} {entry : Entry} (hloc : targetLocation settings ws = .ok loc)
      (hentry : ws.files.at? loc = some entry) :
      Opens settings ws document disk { ws, result := .ok { location := loc, document } }
  | halted {loc : Location} {stop : Stopped} (hnew : settings.MissesTarget ws loc)
      (hgrows : ws.files.Grows loc stop.tree)
      (hleft : stop.tree.at? loc = none ∨ stop.tree.at? loc = some (.file "" false) ∨
        disk.BreaksOff loc (settings.headerText loc) false stop.tree) :
      Opens settings ws document disk { ws := { ws with files := stop.tree }, result := .error stop.error }
  | created {loc : Location} {files : FileTree} {header : String} (hnew : settings.MissesTarget ws loc)
      (hgrows : ws.files.Grows loc files) (hheader : settings.headerText loc = .ok header)
      (hstored : files.at? loc = some (.file header false)) :
      Opens settings ws document disk
        { ws := { ws with files }
          result := .ok { location := loc, document, changed := true, before := .created } }

theorem opens_openTarget (settings : Settings) (ws : Workspace) (document : String) (disk : Disk) :
    Opens settings ws document disk (openTarget settings ws document disk) := by
  unfold openTarget
  cases husable : settings.ensure .target with
  | error e => exact .refused rfl rfl fun loc h => by cases husable.symm.trans h.usable
  | ok =>
    dsimp only
    split
    · next hout => exact .refused rfl rfl fun loc h => by cases hout.symm.trans h.notStdout
    · next hout =>
      split
      · next herr => exact .refused rfl rfl fun loc h => by cases herr.symm.trans h.notStderr
      · next herr =>
        cases hloc : targetLocation settings ws with
        | error e => exact .refused rfl rfl fun loc h => by cases hloc.symm.trans h.location
        | ok loc =>
          dsimp only
          cases hentry : ws.files.at? loc with
          | some entry => exact .found hloc hentry
          | none =>
            have hnew : settings.MissesTarget ws loc :=
              ⟨husable, by simpa using hout, by simpa using herr, hloc, hentry⟩
            have hgrows := grows_makeTarget settings ws.files hnew.ne_nil disk
            obtain ⟨stop, hmake, hleft⟩ | ⟨files, header, hmake, hheader, hstored⟩ :=
              makeTarget_cases settings disk hnew.ne_nil hentry
            · rw [hmake, FileTree.after] at hgrows
              have h : Opens settings ws document disk _ := .halted hnew hgrows hleft
              simpa only [createTarget, hmake] using h
            · rw [hmake, FileTree.after] at hgrows
              have h : Opens settings ws document disk _ := .created hnew hgrows hheader hstored
              simpa only [createTarget, hmake] using h

theorem openTarget_eq_ok {settings : Settings} {ws : Workspace} {document : String} {disk : Disk} {target : Target}
    (h : (openTarget settings ws document disk).result = .ok target) :
    targetLocation settings ws = .ok target.location ∧ target.document = document := by
  have hopens := opens_openTarget settings ws document disk
  generalize openTarget settings ws document disk = opened at hopens h
  cases hopens with
  | refused hws herror hno => cases h.symm.trans herror
  | found hloc hentry =>
    cases h
    exact ⟨hloc, rfl⟩
  | halted hnew hgrows hleft => cases h
  | created hnew hgrows hheader hstored =>
    cases h
    exact ⟨hnew.location, rfl⟩

/-! ## Failures of opening -/

/-- The failures that are no sign of a stream in the place of a file. -/
def Error.isNoStream : Error → Bool
  | .targetIsStdout | .targetIsStderr => false
  | _ => true

theorem Settings.ensure_failsAs (settings : Settings) (use : Use) :
    FailsAs Error.isNoStream (settings.ensure use) := by
  unfold Settings.ensure
  split
  · next fault _ => cases fault <;> exact failsAs_error rfl
  · exact failsAs_ok ()

theorem targetLocation_failsAs (settings : Settings) (ws : Workspace) :
    FailsAs Error.isNoStream (targetLocation settings ws) := by
  refine (settings.ensure_failsAs .target).bind fun _ => ?_
  dsimp only
  split
  · exact failsAs_pure _
  · refine FailsAs.bind ?_ fun _ => failsAs_pure _
    exact (settings.ensure_failsAs .modulePath).bind fun _ => failsAs_pure _

theorem makeDirectories_failsAs (tree : FileTree) (done : Location) (names : List String) (disk : Disk) :
    FailsAs Error.isNoStream ((tree.makeDirectories done names disk).mapError (·.error)) := by
  induction names generalizing tree done with
  | nil => exact failsAs_ok tree
  | cons name names ih =>
    unfold FileTree.makeDirectories
    dsimp only
    split
    · split
      · exact ih _ _
      · exact failsAs_error rfl
    · exact ih _ _
    · refine failsAs_error ?_
      dsimp only
      split <;> rfl

theorem Settings.headerText_failsAs (settings : Settings) (loc : Location) :
    FailsAs Error.isNoStream (settings.headerText loc) := by
  refine (settings.ensure_failsAs .emptyHeader).bind fun _ e he => ?_
  have h := fillTemplate_failsAs _ _ e he
  cases e <;> first | rfl | cases h

theorem walk_failsAs (tree : FileTree) (start : Location) (names : List String) :
    FailsAs Error.isNoStream (tree.walk start names) := by
  induction names generalizing start with
  | nil =>
    unfold FileTree.walk
    split
    · exact failsAs_ok _
    · exact failsAs_error rfl
  | cons name names ih =>
    unfold FileTree.walk
    split
    · exact failsAs_error rfl
    · exact failsAs_error rfl
    · exact ih _

theorem FileTree.store_failsAs (tree : FileTree) (loc : Location) (executable : Bool) (text : String) (disk : Disk) :
    FailsAs Error.isNoStream ((tree.store loc executable text disk).mapError (·.error)) := by
  obtain hstore | hstore | ⟨n, -, hstore⟩ := tree.store_cases disk loc executable text
  · rw [hstore]
    exact failsAs_error rfl
  · rw [hstore]
    exact failsAs_ok _
  · rw [hstore]
    exact failsAs_error rfl

theorem FileTree.write_failsAs (tree : FileTree) (loc : Location) (text : String) (disk : Disk) :
    FailsAs Error.isNoStream ((tree.write loc text disk).mapError (·.error)) := by
  unfold FileTree.write
  split
  · exact failsAs_error rfl
  · exact tree.store_failsAs loc _ text disk
  · split
    · next e he => exact failsAs_error (walk_failsAs tree [] loc.dropLast e he)
    · exact failsAs_error rfl
    · split
      · exact tree.store_failsAs loc false text disk
      · exact failsAs_error rfl

theorem makeTarget_failsAs (settings : Settings) (tree : FileTree) (loc : Location) (disk : Disk) :
    FailsAs Error.isNoStream ((makeTarget settings tree loc disk).mapError (·.error)) := by
  unfold makeTarget
  rw [mapError_bind]
  refine (makeDirectories_failsAs tree [] loc.dropLast disk).bind fun dirs => ?_
  rw [mapError_bind]
  refine FailsAs.bind ?_ fun files => ?_
  · unfold FileTree.touch
    split
    · exact failsAs_ok _
    · exact failsAs_error rfl
  · split
    · next e he => exact failsAs_error (settings.headerText_failsAs loc e he)
    · exact files.write_failsAs loc _ disk

theorem openTarget_failsAs {settings : Settings} (hout : isStdout settings.target = false)
    (herr : isStderr settings.target = false) (ws : Workspace) (document : String) (disk : Disk) :
    FailsAs Error.isNoStream (openTarget settings ws document disk).result := by
  simp only [openTarget, hout, herr, Bool.false_eq_true, if_false]
  split
  · next e he => exact failsAs_error (settings.ensure_failsAs .target e he)
  · split
    · next e he => exact failsAs_error (targetLocation_failsAs settings ws e he)
    · next loc _ =>
      split
      · exact failsAs_ok _
      · unfold createTarget
        split
        · next stop hmake =>
          refine failsAs_error (makeTarget_failsAs settings ws.files loc disk stop.error ?_)
          rw [hmake]
          rfl
        · exact failsAs_ok _

/-! ## Writing -/

theorem linesOf_of_read {tree : FileTree} {cwd loc : Location} (hloc : ".." ∉ loc) {text stored : String}
    {executable : Bool} (hstored : tree.at? loc = some (.file stored executable))
    (h : tree.read cwd (Path.ofLocation loc) = .ok text) : linesOf text = linesOf stored := by
  obtain ⟨stored', executable', hstored', rfl⟩ := FileTree.file_of_read hloc h
  cases hstored.symm.trans hstored'
  rw [linesOf, linesOf, String.toList_ofList, Text.lines_unifyNewlines]

theorem updatedText_of_linesOf {text text' : String} (h : linesOf text = linesOf text') (t : TargetSettings)
    (document : String) : updatedText t text document = updatedText t text' document := by
  rw [updatedText, updatedText, h]

/-- A write fails before it does anything, or the disk breaks off what is made of the stored text. -/
theorem Target.write_eq_error {target : Target} {settings : Settings} {ws : Workspace} {disk : Disk} {e : Error}
    (hloc : ".." ∉ target.location) (h : (target.write settings ws disk).result = .error e) :
    (target.write settings ws disk).ws = ws ∨ ∃ stored executable,
      ws.files.at? target.location = some (.file stored executable) ∧
      disk.BreaksOff target.location (updatedText settings.targetConfig stored target.document) executable
        (target.write settings ws disk).ws.files ∧
      ∀ other, other ≠ target.location →
        (target.write settings ws disk).ws.files.at? other = ws.files.at? other := by
  unfold Target.write at h ⊢
  cases hread : ws.read (Path.ofLocation target.location) with
  | error e => exact .inl rfl
  | ok text =>
    obtain ⟨stored, executable, hstored, -⟩ := FileTree.file_of_read hloc hread
    have hne : target.location ≠ [] := by
      intro hnil
      rw [hnil] at hstored
      cases hstored
    rw [hread] at h
    dsimp only at h ⊢
    split
    · exact .inl rfl
    · next updated hupdated =>
      rw [hupdated] at h
      obtain ⟨_, -, hupdated⟩ := bind_eq_ok.mp hupdated
      rw [updatedText_of_linesOf (linesOf_of_read hloc hstored hread)] at hupdated
      dsimp only at h ⊢
      by_cases hsame : text = updated
      · rw [if_pos hsame]
        exact .inl rfl
      · rw [if_neg hsame, FileTree.write_of_file hstored] at h ⊢
        obtain hstore | hstore | ⟨n, hroom, hstore⟩ :=
          ws.files.store_cases disk target.location executable updated
        · rw [hstore]
          exact .inl rfl
        · rw [hstore] at h
          cases h
        · rw [hstore]
          refine .inr ⟨stored, executable, hstored, ⟨updated, n, hupdated, hroom, ?_⟩, fun other hother => ?_⟩
          · exact (FileTree.at?_put ws.files hne _ _).trans (if_pos rfl)
          · exact (FileTree.at?_put ws.files hne _ _).trans (if_neg hother)

theorem Target.write_eq_ok {target : Target} {settings : Settings} {ws : Workspace}
    (h : (target.write settings ws).result = .ok ()) :
    settings.ensure .marker = .ok () ∧ ∃ text updated,
      ws.read (Path.ofLocation target.location) = .ok text ∧
      updatedText settings.targetConfig text target.document = .ok updated ∧
      (target.write settings ws).target.changed = decide (text ≠ updated) ∧
      ((text = updated ∧ (target.write settings ws).ws = ws) ∨
        (text ≠ updated ∧ ∃ files, ws.files.write target.location updated = .ok files ∧
          (target.write settings ws).ws = { ws with files })) := by
  cases hread : ws.read (Path.ofLocation target.location) with
  | error e =>
    simp only [Target.write, hread, reduceCtorEq] at h
  | ok text =>
    cases hmarker : settings.ensure .marker with
    | error e =>
      have hbind : ((Except.error e : Except Error Unit) >>= fun _ =>
          updatedText settings.targetConfig text target.document) = .error e := rfl
      simp only [Target.write, hread, hmarker, hbind, reduceCtorEq] at h
    | ok =>
      cases hupdated : updatedText settings.targetConfig text target.document with
      | error e => simp only [Target.write, hread, hmarker, ok_bind, hupdated, reduceCtorEq] at h
      | ok updated =>
        refine ⟨rfl, text, updated, rfl, hupdated, ?_⟩
        by_cases hsame : text = updated
        · simp only [Target.write, hread, hmarker, ok_bind, hupdated, if_pos hsame]
          exact ⟨trivial, .inl ⟨hsame, trivial⟩⟩
        · cases hfiles : ws.files.write target.location updated with
          | error e =>
            simp only [Target.write, hread, hmarker, ok_bind, hupdated, if_neg hsame, hfiles, reduceCtorEq] at h
          | ok files =>
            simp only [Target.write, hread, hmarker, ok_bind, hupdated, if_neg hsame, hfiles]
            exact ⟨trivial, .inr ⟨hsame, files, rfl, rfl⟩⟩

theorem Target.read_of_write {target : Target} {settings : Settings} {ws : Workspace}
    (hmarker : settings.targetConfig.MarkerIsLine) (hloc : ".." ∉ target.location) {text updated : String}
    (hread : ws.read (Path.ofLocation target.location) = .ok text)
    (hupdated : updatedText settings.targetConfig text target.document = .ok updated)
    (h : (target.write settings ws).result = .ok ()) :
    (target.write settings ws).ws.read (Path.ofLocation target.location) = .ok updated := by
  obtain ⟨-, text', updated', hread', hupdated', -, hws⟩ := Target.write_eq_ok h
  cases hread.symm.trans hread'
  cases hupdated.symm.trans hupdated'
  rcases hws with ⟨rfl, hws⟩ | ⟨-, files, hfiles, hws⟩
  · rw [hws, hread]
  · obtain ⟨files', hfiles', hread''⟩ := FileTree.read_write hloc hread (unifyNewlines_updated hmarker hupdated)
    cases hfiles.symm.trans hfiles'
    rw [hws]
    exact hread''

end ModuleDocs
