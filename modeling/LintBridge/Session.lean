/-
# Sessions

A session reacts to the editor: it lints a file when its buffer is saved or entered, and fixes the
file that was linted last on command.  It remembers what the editor shows, so that the editor is
only sent what changes something.

* `Host`: what a session needs of its surroundings.
* `Session.lintFile`, `Session.lintProject`, `Session.fix`, `Session.handle`: the operations.
* `Step`: what an operation leads to.

The display is only changed by publications that the editor has taken: a run that fails leaves it
alone, and when the editor refuses a publication, those before it are kept.
-/
import LintBridge.Display.Revision
import LintBridge.Event
import LintBridge.Project
import LintBridge.Publication
import LintBridge.Settings.Basic
import LintBridge.Tool

namespace LintBridge

/-- What a session needs of its surroundings, whose state has the type `σ`. -/
structure Host (σ : Type) where
  /-- The current directory, or the reason why it is unknown. -/
  workingDirectory : σ → Except String Path
  /-- Whether a path leads to a file. -/
  isFile : σ → Path → Bool
  /-- Run the lint tool. -/
  run : Invocation → σ → Except Failure RunResult × σ
  /-- Send a publication to the editor, which may refuse it. -/
  publish : Publication → σ → Option Failure × σ

/-- Why an event led to nothing. -/
inductive SkipReason where
  | missingFilePath
  | unsupportedFileType
  | configNotFound
  | noPreviousTarget
  | unknownCommand (name : String)
deriving DecidableEq, Repr

namespace SkipReason

/-- The word for a reason. -/
def word : SkipReason → String
  | missingFilePath => "MissingFilePath"
  | unsupportedFileType => "UnsupportedFileType"
  | configNotFound => "ConfigNotFound"
  | noPreviousTarget => "NoPreviousTarget"
  | unknownCommand _ => "UnknownCommand"

end SkipReason

/-- What an operation came to. -/
inductive Outcome where
  /-- The lint tool was run and the editor brought up to date. -/
  | published (updated cleared : Nat)
  /-- Nothing was done. -/
  | skipped (reason : SkipReason)
deriving DecidableEq, Repr

/-- What a session says about its work. -/
inductive Note where
  | usingConfig (config tool : Path)
  | fixing (target : Path)
  | nothingToFix
  | unknownCommand (name : String)
  | noConfig (start : Path) (tool : String)
deriving DecidableEq, Repr

namespace Note

/-- The wording of a note. -/
def text : Note → String
  | usingConfig config tool => "Using config " ++ config.text ++ " (tool: " ++ tool.text ++ ")"
  | fixing target => "Fixing " ++ target.text
  | nothingToFix => "Nothing to fix: no file has been linted yet"
  | unknownCommand name => "Unknown command: " ++ name
  | noConfig start tool =>
    (Failure.configNotFound start).message ++ "; not running " ++ tool

end Note

/-- A session with the editor. -/
structure Session where
  /-- The choices of the user. -/
  settings : Settings
  /-- What the editor shows. -/
  display : Display
  /-- The file that was linted last. -/
  lastTarget : Option Path
deriving DecidableEq, Inhabited

/-- What an operation of a session leads to. -/
structure Step (σ : Type) where
  /-- What it came to. -/
  result : Except Failure Outcome
  /-- The session afterwards. -/
  session : Session
  /-- The surroundings afterwards. -/
  world : σ
  /-- The runs of the lint tool. -/
  runs : List Invocation
  /-- The publications that the editor has taken. -/
  sent : List Publication
  /-- What was said. -/
  notes : List Note

/-- What a run of the lint tool leads to. -/
structure Attempt (σ : Type) where
  /-- The diagnostics. -/
  result : Except Failure DiagnosticSet
  /-- The surroundings afterwards. -/
  world : σ
  /-- The runs of the lint tool. -/
  runs : List Invocation
  /-- What was said. -/
  notes : List Note

/-- What sending a list of changes leads to. -/
structure Delivery (σ : Type) where
  /-- Why the editor refused a publication. -/
  refusal : Option Failure
  /-- The changes that the editor has taken. -/
  delivered : List Change
  /-- The surroundings afterwards. -/
  world : σ

namespace Session

variable {σ : Type}

/-- The name of the command that fixes the file that was linted last. -/
def fixCommand : String := "eslint.fix"

/-- A session in which nothing has been published. -/
def start (settings : Settings) : Session := ⟨settings, .empty, none⟩

/-- The publication of a list of diagnostics. -/
def publication (s : Session) (p : Path) (l : List Diagnostic) : Publication :=
  ⟨s.settings.sourceId, p, l, s.settings.colorHint⟩

/-- An operation that does nothing but say something. -/
def skip (s : Session) (reason : SkipReason) (notes : List Note) (w : σ) : Step σ :=
  ⟨.ok (.skipped reason), s, w, [], [], notes⟩

/-- An operation that fails before the lint tool is run. -/
def fail (s : Session) (e : Failure) (w : σ) : Step σ := ⟨.error e, s, w, [], [], []⟩

/-- Run the lint tool on a target. -/
def attempt (host : Host σ) (s : Session) (target : Path) (autofix : Bool) (w : σ) : Attempt σ :=
  match Project.resolve (host.isFile w) target s.settings.configFiles s.settings.tool with
  | .error e => ⟨.error e, w, [], []⟩
  | .ok project =>
    let call := Invocation.make project.tool project.config [target] project.root autofix
    let (result, w) := host.run call w
    let set := do
      let r ← result
      DiagnosticSet.ofText s.settings.conversion project.root (← r.report)
    ⟨set, w, [call], [.usingConfig project.config project.tool]⟩

/-- Publish the diagnostics of one file, unless the editor shows them already. -/
def publishFile (host : Host σ) (s : Session) (target : Path) (a : Attempt σ)
    (l : List Diagnostic) : Step σ :=
  if s.display.needsPublish target l then
    let p := s.publication target l
    match host.publish p a.world with
    | (some e, w) => ⟨.error e, s, w, a.runs, [], a.notes⟩
    | (none, w) =>
      let s := { s with display := s.display.record target l }
      ⟨.ok (.published 1 0), s, w, a.runs, [p], a.notes⟩
  else ⟨.ok (.published 0 0), s, a.world, a.runs, [], a.notes⟩

/-- Lint a file and publish its diagnostics. -/
def lintFile (host : Host σ) (s : Session) (p : Path) (w : σ) : Step σ :=
  if s.settings.accepts p then
    match Path.absolute (host.workingDirectory w) p with
    | .error reason => s.fail (.io reason) w
    | .ok target =>
      let s := { s with lastTarget := some target }
      let a := s.attempt host target false w
      match a.result with
      | .error e => ⟨.error e, s, a.world, a.runs, [], a.notes⟩
      | .ok set => s.publishFile host target a ((set.find? target).getD [])
  else s.skip .unsupportedFileType [] w

/-- Send changes to the editor until it refuses one. -/
def deliver (host : Host σ) (s : Session) : List Change → σ → Delivery σ
  | [], w => ⟨none, [], w⟩
  | c :: rest, w =>
    match host.publish (s.publication c.path c.diagnostics) w with
    | (some e, w) => ⟨some e, [], w⟩
    | (none, w) =>
      let d := s.deliver host rest w
      { d with delivered := c :: d.delivered }

/-- Publish the diagnostics of a run for all files, and clear the files it no longer reports. -/
def publishAll (host : Host σ) (s : Session) (a : Attempt σ) (set : DiagnosticSet) : Step σ :=
  let revision := s.display.revise set
  let d := s.deliver host revision.changes a.world
  let sent := d.delivered.map fun c => s.publication c.path c.diagnostics
  match d.refusal with
  | some e =>
    let s := { s with display := s.display.apply d.delivered }
    ⟨.error e, s, d.world, a.runs, sent, a.notes⟩
  | none =>
    let s := { s with display := revision.display }
    ⟨.ok (.published revision.updated revision.cleared), s, d.world, a.runs, sent, a.notes⟩

/-- Lint a path, fix it if `autofix` is true, and publish the diagnostics of all files. -/
def lintProject (host : Host σ) (s : Session) (p : Path) (autofix : Bool) (w : σ) : Step σ :=
  match Path.absolute (host.workingDirectory w) p with
  | .error reason => s.fail (.io reason) w
  | .ok target =>
    let s := { s with lastTarget := some target }
    let a := s.attempt host target autofix w
    match a.result with
    | .error e => ⟨.error e, s, a.world, a.runs, [], a.notes⟩
    | .ok set => s.publishAll host a set

/-- Fix the file that was linted last. -/
def fix (host : Host σ) (s : Session) (w : σ) : Step σ :=
  match s.lastTarget with
  | none => s.skip .noPreviousTarget [.nothingToFix] w
  | some target =>
    let step := s.lintProject host target true w
    { step with notes := .fixing target :: step.notes }

/-- React to an event, where a missing configuration is no failure. -/
def excuse (step : Step σ) : Step σ :=
  match step.result with
  | .error (.configNotFound start) =>
    { step with
      result := .ok (.skipped .configNotFound)
      notes := step.notes ++ [.noConfig start step.session.settings.tool] }
  | _ => step

/-- Lint the file of a buffer. -/
def lintBuffer (host : Host σ) (s : Session) (filePath : Option Path) (w : σ) : Step σ :=
  match filePath with
  | none => s.skip .missingFilePath [] w
  | some p => excuse (s.lintFile host p w)

/-- React to an event of the editor. -/
def handle (host : Host σ) (s : Session) (event : Event) (w : σ) : Step σ :=
  match event with
  | .bufferSaved filePath => s.lintBuffer host filePath w
  | .bufferEnter filePath => s.lintBuffer host filePath w
  | .command name =>
    if name = fixCommand then excuse (s.fix host w)
    else s.skip (.unknownCommand name) [.unknownCommand name] w

end Session

end LintBridge
