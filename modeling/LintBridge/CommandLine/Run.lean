/-
# Commands

* `Machine.lint`, `Machine.normalize`: commands that report on files.
* `Machine.perform`: what a request leads to.
* `Machine.answer`: what arguments lead to.
-/
import LintBridge.CommandLine.Init
import LintBridge.CommandLine.Serve

namespace LintBridge

namespace Machine

variable {σ : Type}

/-- Report on a file after it was linted, or fixed if `autofix` is true. -/
def lint (m : Machine σ) (settings : Settings) (log : List Message) (file : Path)
    (format : ReportFormat) (autofix : Bool) (w : σ) : CommandResult σ :=
  let session := Session.start settings
  let step :=
    if autofix then session.lintProject m.host file true w else session.lintFile m.host file w
  let log := log ++ step.notes.map Note.message
  match step.result with
  | .ok (.skipped reason) =>
    ⟨0, "", log ++ [⟨.warning, "Skipped " ++ file.text ++ ": " ++ reason.word⟩], step.world⟩
  | .ok (.published _ _) =>
    let code := if step.sent.any Publication.hasErrors then 1 else 0
    ⟨code, format.report step.sent, log, step.world⟩
  | .error e =>
    if e.isConfigNotFound then
      ⟨0, "", log ++ [⟨.warning, e.message ++ "; not linting " ++ file.text⟩], step.world⟩
    else .failed log e.message step.world

/-- Print the diagnostics of a report of the lint tool. -/
def normalize (m : Machine σ) (settings : Settings) (log : List Message) (file : Option Path)
    (input : String) (w : σ) : CommandResult σ :=
  let text :=
    match file with
    | some p => m.readText w p
    | none => .ok input
  match text with
  | .error e => .failed log e.message w
  | .ok text =>
    match m.workingDirectory w with
    | .error reason => .failed log reason w
    | .ok here =>
      match DiagnosticSet.ofText settings.conversion here text with
      | .error e => .failed log e.message w
      | .ok set => ⟨0, set.toJson.prettyText ++ "\n", log, w⟩

/-- Load the settings and go on with them. -/
def withSettings (m : Machine σ) (config : Option Path) (w : σ)
    (next : Settings → List Message → CommandResult σ) : CommandResult σ :=
  let loaded := m.loadSettings config w
  match loaded.result with
  | .error reason => .failed loaded.log reason w
  | .ok settings => next settings loaded.log

/-- What a request leads to. -/
def perform (m : Machine σ) (line : CommandLine) (input : String) (w : σ) : CommandResult σ :=
  match line.request with
  | .lint file format =>
    m.withSettings line.config w fun settings log => m.lint settings log file format false w
  | .fix file format =>
    m.withSettings line.config w fun settings log => m.lint settings log file format true w
  | .normalize file =>
    m.withSettings line.config w fun settings log => m.normalize settings log file input w
  | .serve => m.withSettings line.config w fun settings log => m.serve settings log input w
  | .init force => m.init force w

/-- The answer to the question for the version. -/
def versionText : String := "lintrelay 0.1.0\n"

/-- The answer to the question for help. -/
def helpText : String := "Usage: lintrelay [OPTIONS] <COMMAND>\n"

/-- What arguments lead to. -/
def answer (m : Machine σ) (arguments : List String) (input : String) (w : σ) : CommandResult σ :=
  match CommandLine.parse arguments with
  | .ok line => m.perform line input w
  | .error .version => ⟨0, versionText, [], w⟩
  | .error .help => ⟨0, helpText, [], w⟩
  | .error .misuse => ⟨2, "", [⟨.error, helpText⟩], w⟩

end Machine

end LintBridge
