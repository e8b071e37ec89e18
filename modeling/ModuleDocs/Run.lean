import ModuleDocs.Document
import ModuleDocs.Target

/-!
# Runs

A whole run: the settings are dumped if asked for, the module is read, and the document on it is written to
the target. The exit code says whether the target has changed.
-/
set_option autoImplicit false

namespace ModuleDocs

/-- Whether a run has changed the target. -/
inductive Verdict where
  | changed
  | unchanged
deriving Repr, DecidableEq

def Settings.exitCode (s : Settings) : Verdict → Int
  | .changed => s.changedExitCode
  | .unchanged => s.unchangedExitCode

def Settings.givenExitCode (s : Settings) (verdict : Verdict) : Value :=
  let name := match verdict with
    | .changed => "changed_exit_code"
    | .unchanged => "unchanged_exit_code"
  (s.toEntries.lookup name).getD .null

/-- What a run does: the workspace after it, what is printed, and its verdict or the failure. -/
structure Outcome where
  ws : Workspace
  stdout : String := ""
  stderr : String := ""
  verdict : Except Error Verdict

/-- Writes the document and stages the target, if it has changed and that is asked for. -/
def finish (settings : Settings) (ws : Workspace) (target : Target) : Outcome :=
  let written := target.write settings ws
  let ws := written.ws
  match written.result with
  | .error e => { ws, verdict := .error e }
  | .ok () =>
    if !written.target.changed then { ws, verdict := .ok .unchanged }
    else if !settings.changedGitAdd then { ws, verdict := .ok .changed }
    else
      match written.target.stage ws with
      | .error e => { ws, verdict := .error e }
      | .ok ws => { ws, verdict := .ok .changed }

def runOnce (ws : Workspace) (parse : Hcl.Parser) (settings : Settings) : Outcome :=
  match settings.dump ws with
  | .error e => { ws, verdict := .error e }
  | .ok ws =>
    match (Hcl.loadModule ws parse settings).bind (formatModule settings) with
    | .error e => { ws, verdict := .error e }
    | .ok document =>
      let opened := openTarget settings ws document
      match opened.result with
      | .ok target => finish settings opened.ws target
      | .error e =>
        let verdict :=
          if e = .targetIsStdout || e = .targetIsStderr then .ok .unchanged else .error e
        { ws := opened.ws, stdout := opened.stdout, stderr := opened.stderr, verdict }

end ModuleDocs
