/-
# Linting and fixing a file from the command line

The command ends in one of a few ways, and each has its exit code.  Only in two of them is anything
printed: the report on the file that was linted, or on all files that the lint tool has reported on
while fixing.  How the report is formatted makes no difference to the exit code or to what is
reported.

* `Machine.Ends`: the ways in which the command ends, each with its exit code and with what is
  reported.
* `Machine.reported`: the publications that are reported.
* `Machine.exists_ends`: there are no other ways.
* `Disk.honest_machine`: on a disk, the lint tool only fails as a process.
* `Machine.perform_ends`: the law.
-/
import LintBridge.CommandLine.Run
import LintBridge.Proofs.CommandLine.Serving
import LintBridge.Proofs.Project.Nearest
import LintBridge.Proofs.Report.Grouping
import LintBridge.Proofs.Session.Lint
import LintBridge.Proofs.Session.Outcome

namespace LintBridge

variable {σ : Type}

/-! ## From the empty display -/

namespace Display

lemma needsPublish_empty (p : Path) (l : List Diagnostic) : empty.needsPublish p l = true := by
  rw [needsPublish, isClean, empty, PathMap.find?_empty]
  simp

/-- From the empty display, all files of a run are sent, and no other ones. -/
lemma changes_revise_empty (set : DiagnosticSet) :
    (empty.revise set).changes = set.toList.map fun e => ⟨e.1, e.2, false⟩ := by
  have hupdates : (set.toList.filter fun e => empty.needsPublish e.1 e.2) = set.toList :=
    List.filter_eq_self.2 fun e _ => needsPublish_empty e.1 e.2
  rw [revise, updates, hupdates]
  exact List.append_nil _

lemma changes_reviseFile_empty (set : DiagnosticSet) (target : Path) :
    (empty.reviseFile set target).changes = [⟨target, (set.find? target).getD [], false⟩] := by
  simp only [reviseFile, needsPublish_empty, if_true]

end Display

lemma RunResult.isSuccess_iff {r : RunResult} :
    r.isSuccess = true ↔ r.status = some 0 ∨ r.status = some 1 := by
  rw [isSuccess]
  cases r.status <;> simp [successCodes]

/-- On a disk, the lint tool only fails as a process, and no publication is refused. -/
theorem Disk.honest_machine : Disk.machine.host.Honest where
  tool call d e h := by
    have hspawn : (d.spawn call).1 = .error e := h
    rw [spawn] at hspawn
    simp only at hspawn
    split at hspawn
    next => exact ⟨_, (Except.error.inj hspawn).symm⟩
    next =>
      split at hspawn
      next => cases hspawn
      next => exact ⟨_, (Except.error.inj hspawn).symm⟩
  editor _ _ _ h := by cases h

namespace Machine

/-! ## How the command ends -/

/-- The publications that are reported: the one for the target, or those for all files if the target
was to be fixed. -/
def reported (settings : Settings) (target : Path) (autofix : Bool) (set : DiagnosticSet) :
    List Publication :=
  (if autofix then set.toList else [(target, (set.find? target).getD [])]).map fun e =>
    ⟨settings.sourceId, e.1, e.2, settings.colorHint⟩

/-- A violation in a published file has the severity number 2, and severities count. -/
def Alarming (settings : Settings) (root : Path) (reports : List FileReport)
    (published : List Publication) : Prop :=
  settings.severity = .graded ∧
    ∃ r ∈ reports, ∃ v ∈ r.violations, v.severity = 2 ∧ ∃ p ∈ published, (r.key root).Same p.path

section Ends

variable (m : Machine σ) (config : Option Path) (file target : Path) (autofix : Bool) (w : σ)

/-- The settings are loaded, and the file is accepted unless it is to be fixed. -/
structure Accepts (settings : Settings) : Prop where
  loaded : (m.loadSettings config w).result = .ok settings
  accepted : autofix = true ∨ settings.accepts file = true

/-- What the lint tool answers when it is called for a project. -/
def toolAnswer (project : Project) : Except Failure RunResult :=
  (m.run (.make project.tool project.config [target] project.root autofix) w).1

/-- There is a project, and the lint tool answers. -/
structure Answers (settings : Settings) (project : Project) (answer : Except Failure RunResult) :
    Prop where
  accepts : Accepts m config file autofix w settings
  resolved : Project.resolve (m.isFile w) target settings.configFiles settings.tool = .ok project
  answer : toolAnswer m target autofix w project = answer

/-- The lint tool ends well and prints reports, and these publications are made of them. -/
structure Reports (settings : Settings) (root : Path) (reports : List FileReport)
    (published : List Publication) : Prop where
  read : ∃ project r, Answers m config file target autofix w settings project (.ok r) ∧
    project.root = root ∧ (r.status = some 0 ∨ r.status = some 1) ∧
    FileReport.readAll r.stdout = .ok reports
  published :
    published = reported settings target autofix (.ofReports settings.conversion root reports)

/-- The ways in which linting or fixing a file ends, with the exit code and with the publications
that are reported, if there is a report. -/
inductive Ends : Nat → Option (List Publication) → Prop
  /-- The settings cannot be loaded. -/
  | unsettled {reason : String} (h : (m.loadSettings config w).result = .error reason) : Ends 2 none
  /-- The file is not accepted, and not to be fixed. -/
  | unaccepted {settings : Settings} (hloaded : (m.loadSettings config w).result = .ok settings)
      (hfix : autofix = false) (h : settings.accepts file = false) : Ends 0 none
  /-- There is no configuration. -/
  | unconfigured {settings : Settings} (haccepts : Accepts m config file autofix w settings)
      (h : searchUp (m.isFile w) (Project.directoryOf target) settings.configFiles = none) :
      Ends 0 none
  /-- The lint tool cannot be run. -/
  | unrun {settings : Settings} {project : Project} {e : Failure}
      (h : Answers m config file target autofix w settings project (.error e)) : Ends 2 none
  /-- The lint tool does not end well. -/
  | broken {settings : Settings} {project : Project} {r : RunResult}
      (hanswers : Answers m config file target autofix w settings project (.ok r))
      (h : r.status ≠ some 0 ∧ r.status ≠ some 1) : Ends 2 none
  /-- The lint tool prints no reports. -/
  | unreadable {settings : Settings} {project : Project} {r : RunResult} {e : Failure}
      (hanswers : Answers m config file target autofix w settings project (.ok r))
      (hstatus : r.status = some 0 ∨ r.status = some 1)
      (h : FileReport.readAll r.stdout = .error e) : Ends 2 none
  /-- There are reports, and an error in a published file. -/
  | alarmed {settings : Settings} {root : Path} {reports : List FileReport}
      {published : List Publication}
      (hreports : Reports m config file target autofix w settings root reports published)
      (h : Alarming settings root reports published) : Ends 1 (some published)
  /-- There are reports, and no error in a published file. -/
  | quiet {settings : Settings} {root : Path} {reports : List FileReport}
      {published : List Publication}
      (hreports : Reports m config file target autofix w settings root reports published)
      (h : ¬Alarming settings root reports published) : Ends 0 (some published)

end Ends

variable {m : Machine σ} {config : Option Path} {file target here : Path} {autofix : Bool} {w : σ}
  {settings : Settings} {project : Project}

/-- One of the ways is taken. -/
lemma exists_ends (m : Machine σ) (config : Option Path) (file target : Path) (autofix : Bool)
    (w : σ) : ∃ code report, m.Ends config file target autofix w code report := by
  cases hloaded : (m.loadSettings config w).result with
  | error reason => exact ⟨2, none, .unsettled hloaded⟩
  | ok settings =>
    by_cases haccepted : autofix = true ∨ settings.accepts file = true
    · have haccepts : m.Accepts config file autofix w settings := ⟨hloaded, haccepted⟩
      cases hproject : Project.resolve (m.isFile w) target settings.configFiles settings.tool with
      | error e =>
        exact ⟨0, none, .unconfigured haccepts (Project.resolve_eq_error_iff.1 hproject).1⟩
      | ok project =>
        cases hanswer : m.toolAnswer target autofix w project with
        | error e => exact ⟨2, none, .unrun ⟨haccepts, hproject, hanswer⟩⟩
        | ok r =>
          have hanswers : m.Answers config file target autofix w settings project (.ok r) :=
            ⟨haccepts, hproject, hanswer⟩
          by_cases hstatus : r.status = some 0 ∨ r.status = some 1
          · cases hread : FileReport.readAll r.stdout with
            | error e => exact ⟨2, none, .unreadable hanswers hstatus hread⟩
            | ok reports =>
              have hreports : m.Reports config file target autofix w settings project.root reports
                  _ := ⟨⟨project, r, hanswers, rfl, hstatus, hread⟩, rfl⟩
              rcases Classical.em (Alarming settings project.root reports _) with h | h
              · exact ⟨1, _, .alarmed hreports h⟩
              · exact ⟨0, _, .quiet hreports h⟩
          · exact ⟨2, none, .broken hanswers (not_or.1 hstatus)⟩
    · obtain ⟨hfix, hfile⟩ := not_or.1 haccepted
      exact ⟨0, none, .unaccepted hloaded (Bool.eq_false_iff.2 hfix) (Bool.eq_false_iff.2 hfile)⟩

/-! ## What the session comes to -/

/-- What the session does for the command. -/
def lintStep (m : Machine σ) (settings : Settings) (file : Path) (autofix : Bool) (w : σ) :
    Step σ :=
  if autofix then (Session.start settings).lintProject m.host file true w
  else (Session.start settings).lintFile m.host file w

/-- The way from the empty display to what was found. -/
def wayTo (target : Path) (autofix : Bool) (set : DiagnosticSet) : Revision :=
  if autofix then Display.empty.revise set else Display.empty.reviseFile set target

lemma accepting_host (m : Machine σ) : m.host.Accepting := fun _ _ => rfl

lemma lintStep_eq (haccepted : autofix = true ∨ settings.accepts file = true)
    (htarget : Path.absolute (m.workingDirectory w) file = .ok target) :
    m.lintStep settings file autofix w =
      (Session.start settings).lintTarget m.host target autofix (wayTo target autofix) w := by
  cases autofix with
  | true => exact Session.lintProject_eq htarget
  | false => exact Session.lintFile_eq (haccepted.resolve_left Bool.false_ne_true) htarget

/-- The publications that are reported are those that the session has sent. -/
lemma map_message_wayTo (settings : Settings) (target : Path) (autofix : Bool)
    (set : DiagnosticSet) :
    (wayTo target autofix set).changes.map (Session.start settings).message =
      reported settings target autofix set := by
  cases autofix with
  | true =>
    rw [wayTo, if_pos rfl, Display.changes_revise_empty, List.map_map]
    rfl
  | false =>
    rw [wayTo, if_neg Bool.false_ne_true, Display.changes_reviseFile_empty]
    rfl

/-- What the lint tool answers is what is found. -/
lemma finding_eq {answer : Except Failure RunResult}
    (h : m.Answers config file target autofix w settings project answer) :
    (Session.start settings).finding m.host target autofix w =
      (Session.reportsOf answer).map (.ofReports settings.conversion project.root) := by
  rw [← h.answer]
  exact (Session.attempt_result m.host (.start settings) target autofix w h.resolved).trans
    (Session.reading_eq _ _ _)

/-- When the lint tool ends well, what it prints is read. -/
lemma finding_of_status {r : RunResult}
    (h : m.Answers config file target autofix w settings project (.ok r))
    (hstatus : r.status = some 0 ∨ r.status = some 1) :
    (Session.start settings).finding m.host target autofix w =
      (FileReport.readAll r.stdout).map (.ofReports settings.conversion project.root) := by
  have hreport : r.report = .ok r.stdout := by
    rw [RunResult.report, if_pos (RunResult.isSuccess_iff.2 hstatus)]
  rw [finding_eq h, Session.reportsOf]
  simp only [hreport, bind, Except.bind]

lemma finding_of_unconfigured
    (h : searchUp (m.isFile w) (Project.directoryOf target) settings.configFiles = none) :
    (Session.start settings).finding m.host target autofix w =
      .error (.configNotFound (Project.directoryOf target)) := by
  have hresolve : Project.resolve (m.isFile w) target settings.configFiles settings.tool =
      .error (.configNotFound (Project.directoryOf target)) :=
    Project.resolve_eq_error_iff.2 ⟨h, rfl⟩
  rw [Session.finding, Session.attempt]
  simp [host, Session.start, hresolve]

lemma exists_finding_of_broken {r : RunResult}
    (hanswers : m.Answers config file target autofix w settings project (.ok r))
    (h : r.status ≠ some 0 ∧ r.status ≠ some 1) :
    ∃ reason, (Session.start settings).finding m.host target autofix w =
      .error (.process reason) := by
  have hbad : ¬r.isSuccess = true := by
    rw [RunResult.isSuccess_iff, not_or]
    exact h
  obtain ⟨reason, hreport⟩ : ∃ reason, r.report = .error (.process reason) :=
    ⟨_, by rw [RunResult.report, if_neg hbad]⟩
  refine ⟨reason, ?_⟩
  rw [finding_eq hanswers, Session.reportsOf]
  simp only [hreport, bind, Except.bind]
  rfl

lemma exists_finding_of_unreadable {r : RunResult} {e : Failure}
    (hanswers : m.Answers config file target autofix w settings project (.ok r))
    (hstatus : r.status = some 0 ∨ r.status = some 1)
    (h : FileReport.readAll r.stdout = .error e) :
    ∃ reason, (Session.start settings).finding m.host target autofix w =
      .error (.parse reason) := by
  have htext : DiagnosticSet.ofText settings.conversion project.root r.stdout = .error e := by
    rw [DiagnosticSet.ofText, h]
    rfl
  obtain ⟨reason, rfl⟩ := DiagnosticSet.ofText_error htext
  refine ⟨reason, ?_⟩
  rw [finding_of_status hanswers hstatus, h]
  rfl

/-- When reports are found, the session sends what is published of them. -/
lemma lintStep_of_reports {root : Path} {reports : List FileReport} {published : List Publication}
    (hreports : m.Reports config file target autofix w settings root reports published)
    (htarget : Path.absolute (m.workingDirectory w) file = .ok target) :
    let step := m.lintStep settings file autofix w
    (∃ updated cleared, step.result = .ok (.published updated cleared)) ∧
      step.sent = published := by
  obtain ⟨⟨project, r, hanswers, rfl, hstatus, hread⟩, hpublished⟩ := hreports
  have hfinding : (Session.start settings).finding m.host target autofix w =
      .ok (.ofReports settings.conversion project.root reports) := by
    rw [finding_of_status hanswers hstatus, hread]
    rfl
  have hstep := lintStep_eq (m := m) hanswers.accepts.accepted htarget
  obtain ⟨hresult, -, hsent⟩ := Session.lintTarget_of_ok m.accepting_host hfinding
  rw [← hstep] at hresult hsent
  rw [map_message_wayTo, ← hpublished] at hsent
  exact ⟨⟨_, _, hresult⟩, hsent⟩

/-! ## What the command makes of it -/

/-- Nothing is printed. -/
lemma lint_of_skipped (log : List Message) (format : ReportFormat) {reason : SkipReason}
    (h : (m.lintStep settings file autofix w).result = .ok (.skipped reason)) :
    let result := m.lint settings log file format autofix w
    result.code = 0 ∧ result.stdout = "" := by
  rw [lintStep] at h
  simp only [lint, h, and_self]

lemma lint_of_published (log : List Message) (format : ReportFormat) {updated cleared : Nat}
    (h : (m.lintStep settings file autofix w).result = .ok (.published updated cleared)) :
    let result := m.lint settings log file format autofix w
    let sent := (m.lintStep settings file autofix w).sent
    result.code = (if sent.any Publication.hasErrors then 1 else 0) ∧
      result.stdout = format.report sent := by
  rw [lintStep] at h ⊢
  simp only [lint, h, and_self]

/-- Nothing is printed, and a missing configuration is no failure. -/
lemma lint_of_error (log : List Message) (format : ReportFormat) {e : Failure}
    (h : (m.lintStep settings file autofix w).result = .error e) :
    let result := m.lint settings log file format autofix w
    result.code = (if e.isConfigNotFound then 0 else 2) ∧ result.stdout = "" := by
  rw [lintStep] at h
  simp only [lint, h]
  split <;> exact ⟨rfl, rfl⟩

/-! ## Errors in published files -/

lemma isError_toDiagnostic {o : ConversionOptions} {v : Violation} :
    (v.toDiagnostic o).isError = true ↔ o.severity = .graded ∧ v.severity = 2 := by
  rw [Diagnostic.isError, Violation.toDiagnostic]
  cases o.severity with
  | graded => by_cases h : v.severity = 2 <;> simp [SeverityPolicy.severity, h]
  | warningOnly => simp [SeverityPolicy.severity]

/-- A publication has the list that the set shows in its file. -/
lemma diagnostics_of_mem_reported {set : DiagnosticSet} {p : Publication}
    (h : p ∈ reported settings target autofix set) : p.diagnostics = set.screen p.path := by
  obtain ⟨e, he, rfl⟩ := List.mem_map.1 h
  cases autofix with
  | true =>
    have hfound : set.find? e.1 = some e.2 := PathMap.find?_of_mem he (.refl e.1)
    rw [DiagnosticSet.screen, hfound]
    rfl
  | false =>
    obtain rfl : e = (target, (set.find? target).getD []) := List.mem_singleton.1 he
    rfl

/-- A published list has an error if a report on the file has one. -/
lemma hasErrors_iff {root : Path} {reports : List FileReport} {p : Publication}
    (h : p ∈ reported settings target autofix (.ofReports settings.conversion root reports)) :
    p.hasErrors = true ↔ settings.severity = .graded ∧
      ∃ r ∈ reports, ∃ v ∈ r.violations, v.severity = 2 ∧ (r.key root).Same p.path := by
  rw [Publication.hasErrors, diagnostics_of_mem_reported h, DiagnosticSet.screen_ofReports,
    List.any_eq_true]
  simp only [DiagnosticSet.gathered, FileReport.diagnostics, List.mem_flatMap, List.mem_filter,
    List.mem_map, decide_eq_true_eq]
  constructor
  · rintro ⟨d, ⟨r, ⟨hr, hs⟩, v, hv, rfl⟩, herror⟩
    obtain ⟨hgraded, hcode⟩ := isError_toDiagnostic.1 herror
    exact ⟨hgraded, r, hr, v, hv, hcode, hs⟩
  · rintro ⟨hgraded, r, hr, v, hv, hcode, hs⟩
    exact ⟨_, ⟨r, ⟨hr, hs⟩, v, hv, rfl⟩, isError_toDiagnostic.2 ⟨hgraded, hcode⟩⟩

lemma any_hasErrors_iff {root : Path} {reports : List FileReport} {published : List Publication}
    (h : published =
      reported settings target autofix (.ofReports settings.conversion root reports)) :
    published.any Publication.hasErrors = true ↔ Alarming settings root reports published := by
  rw [List.any_eq_true, Alarming]
  constructor
  · rintro ⟨p, hp, herrors⟩
    obtain ⟨hgraded, r, hr, v, hv, hcode, hs⟩ := (hasErrors_iff (h ▸ hp)).1 herrors
    exact ⟨hgraded, r, hr, v, hv, hcode, p, hp, hs⟩
  · rintro ⟨hgraded, r, hr, v, hv, hcode, p, hp, hs⟩
    exact ⟨p, hp, (hasErrors_iff (h ▸ hp)).2 ⟨hgraded, r, hr, v, hv, hcode, hs⟩⟩

/-- The files come in path order. -/
lemma increasing_reported (settings : Settings) (target : Path) (autofix : Bool)
    (set : DiagnosticSet) :
    (reported settings target autofix set).Pairwise fun a b => a.path.order b.path = .lt := by
  rw [reported, List.pairwise_map]
  cases autofix with
  | true => exact set.files.ordered
  | false => exact List.pairwise_singleton ..

/-! ## The law -/

/-- The request to lint a file, or to fix it. -/
def request (file : Path) (autofix : Bool) (format : ReportFormat) : Request :=
  if autofix then .fix file format else .lint file format

/-- The exit code and the printed text are those of this way to end. -/
def Shows (result : CommandResult σ) (code : Nat) (format : ReportFormat)
    (report : Option (List Publication)) : Prop :=
  result.code = code ∧ result.stdout = (report.map format.report).getD ""

section Cases

variable {verbose : Bool} {format : ReportFormat} {input : String}

lemma perform_of_loaded (hloaded : (m.loadSettings config w).result = .ok settings) :
    m.perform ⟨config, verbose, request file autofix format⟩ input w =
      m.lint settings (m.loadSettings config w).log file format autofix w := by
  cases autofix <;> simp only [request, perform, withSettings, hloaded] <;> rfl

lemma perform_of_unloaded {reason : String}
    (h : (m.loadSettings config w).result = .error reason) :
    Shows (m.perform ⟨config, verbose, request file autofix format⟩ input w) 2 format none := by
  cases autofix <;> simp only [request, perform, withSettings, h] <;> exact ⟨rfl, rfl⟩

lemma perform_of_unaccepted (hloaded : (m.loadSettings config w).result = .ok settings)
    (h : settings.accepts file = false) :
    Shows (m.perform ⟨config, verbose, request file false format⟩ input w) 0 format none := by
  have hskipped : (m.lintStep settings file false w).result =
      .ok (.skipped .unsupportedFileType) := by
    rw [lintStep, if_neg Bool.false_ne_true, Session.lintFile]
    simp [Session.start, h, Session.skip]
  rw [perform_of_loaded hloaded]
  exact lint_of_skipped _ format hskipped

/-- When nothing is found, nothing is printed. -/
lemma perform_of_finding_error {e : Failure}
    (haccepts : m.Accepts config file autofix w settings)
    (htarget : Path.absolute (m.workingDirectory w) file = .ok target)
    (hfinding : (Session.start settings).finding m.host target autofix w = .error e) :
    Shows (m.perform ⟨config, verbose, request file autofix format⟩ input w)
      (if e.isConfigNotFound then 0 else 2) format none := by
  rw [perform_of_loaded haccepts.loaded]
  refine lint_of_error _ format ?_
  rw [lintStep_eq haccepts.accepted htarget]
  exact (Session.lintTarget_of_error hfinding).1

/-- When reports are found, they are printed, and the exit code tells whether there is an error. -/
lemma perform_of_reports {root : Path} {reports : List FileReport} {published : List Publication}
    (hreports : m.Reports config file target autofix w settings root reports published)
    (htarget : Path.absolute (m.workingDirectory w) file = .ok target) :
    Shows (m.perform ⟨config, verbose, request file autofix format⟩ input w)
      (if published.any Publication.hasErrors then 1 else 0) format (some published) := by
  obtain ⟨⟨updated, cleared, hresult⟩, hsent⟩ := lintStep_of_reports hreports htarget
  obtain ⟨⟨_, _, hanswers, -⟩, -⟩ := hreports
  have hlint := lint_of_published (m.loadSettings config w).log format hresult
  rw [hsent] at hlint
  rw [perform_of_loaded hanswers.accepts.loaded]
  exact hlint

end Cases

/-- What is reported belongs to the way to end, and so does the exit code if the lint tool only
fails as a process. -/
lemma Ends.shows (htarget : Path.absolute (m.workingDirectory w) file = .ok target) {code : Nat}
    {report : Option (List Publication)} (h : m.Ends config file target autofix w code report)
    (verbose : Bool) (format : ReportFormat) (input : String) :
    ∃ code', Shows (m.perform ⟨config, verbose, request file autofix format⟩ input w) code' format
      report ∧ (m.host.Honest → code' = code) := by
  cases h with
  | unsettled h => exact ⟨2, perform_of_unloaded h, fun _ => rfl⟩
  | unaccepted hloaded hfix h =>
    subst hfix
    exact ⟨0, perform_of_unaccepted hloaded h, fun _ => rfl⟩
  | unconfigured haccepts h =>
    exact ⟨0, perform_of_finding_error haccepts htarget (finding_of_unconfigured h), fun _ => rfl⟩
  | unrun h =>
    refine ⟨_, perform_of_finding_error h.accepts htarget (finding_eq h), fun hhonest => ?_⟩
    obtain ⟨reason, rfl⟩ := hhonest.tool _ w _ h.answer
    rfl
  | broken hanswers h =>
    obtain ⟨reason, hfinding⟩ := exists_finding_of_broken hanswers h
    exact ⟨2, perform_of_finding_error hanswers.accepts htarget hfinding, fun _ => rfl⟩
  | unreadable hanswers hstatus h =>
    obtain ⟨reason, hfinding⟩ := exists_finding_of_unreadable hanswers hstatus h
    exact ⟨2, perform_of_finding_error hanswers.accepts htarget hfinding, fun _ => rfl⟩
  | alarmed hreports h =>
    have herrors := (any_hasErrors_iff hreports.published).2 h
    refine ⟨1, ?_, fun _ => rfl⟩
    simpa only [if_pos herrors] using perform_of_reports hreports htarget
  | quiet hreports h =>
    have hclean := fun herrors => h ((any_hasErrors_iff hreports.published).1 herrors)
    refine ⟨0, ?_, fun _ => rfl⟩
    simpa only [if_neg hclean] using perform_of_reports hreports htarget

/-- The command ends in the way that the surroundings decide. -/
lemma Ends.perform (hhonest : m.host.Honest)
    (htarget : Path.absolute (m.workingDirectory w) file = .ok target) {code : Nat}
    {report : Option (List Publication)} (h : m.Ends config file target autofix w code report)
    (verbose : Bool) (format : ReportFormat) (input : String) :
    Shows (m.perform ⟨config, verbose, request file autofix format⟩ input w) code format
      report := by
  obtain ⟨code', hshows, hcode⟩ := h.shows htarget verbose format input
  exact hcode hhonest ▸ hshows

/-- **Every ending has its exit code and its report.**  Let a file with a path that is not empty be
linted or fixed, in a known and absolute directory, with a lint tool that only fails as a process.
The command ends in one of the ways that `Machine.Ends` lists, and its exit code and what it reports
are those of this way, in every format.  The reports come in path order, without a file twice. -/
theorem perform_ends (m : Machine σ) (hhonest : m.host.Honest)
    (hhere : m.workingDirectory w = .ok here) (habs : here.isAbsolute = true)
    (config : Option Path) (hfile : file.text ≠ "") (autofix : Bool) :
    let target := Path.normalize here file
    target.isAbsolute = true ∧
    (∃ code report, m.Ends config file target autofix w code report) ∧
    ∀ code report, m.Ends config file target autofix w code report →
      (∀ published, report = some published →
        published.Pairwise fun a b => a.path.order b.path = .lt) ∧
      ∀ verbose format input,
        let result := m.perform ⟨config, verbose, request file autofix format⟩ input w
        result.code = code ∧ result.stdout = (report.map format.report).getD "" := by
  intro target
  have htarget : Path.absolute (m.workingDirectory w) file = .ok target := by
    rw [hhere]
    refine Path.absolute_ok ?_ here
    rw [Bool.eq_false_iff]
    exact fun hempty => hfile (String.isEmpty_iff.1 hempty)
  refine ⟨Path.isAbsolute_normalize habs file, exists_ends m config file target autofix w, ?_⟩
  intro code report hends
  refine ⟨?_, hends.perform hhonest htarget⟩
  rintro published rfl
  cases hends with
  | alarmed hreports => exact hreports.published ▸ increasing_reported _ _ _ _
  | quiet hreports => exact hreports.published ▸ increasing_reported _ _ _ _

end Machine

lemma Rehearsal.honest_machine : Rehearsal.machine.host.Honest where
  tool := Session.honest_rehearsal.tool
  editor _ _ _ h := by cases h

/-- The file that is fixed has no violations left, but another one has. -/
theorem Machine.perform_ends_rehearsed :
    let answer : RunResult := ⟨some 1, "[\x7b\"filePath\":\"b.js\",\"messages\":[\x7b" ++
      "\"message\":\"odd\",\"severity\":2\x7d]\x7d," ++
      "\x7b\"filePath\":\"src/../a.js\",\"messages\":[]\x7d]", ""⟩
    let w : Rehearsal := ⟨[answer], 0⟩
    let here : Path := ⟨"/p"⟩
    let file : Path := ⟨"src/..//a.js"⟩
    let published : List Publication := [⟨"eslint-js", ⟨"/p/a.js"⟩, [], some "yellow"⟩,
      ⟨"eslint-js", ⟨"/p/b.js"⟩, [⟨"odd", .point ⟨0, 0⟩, .error, none⟩], some "yellow"⟩]
    Rehearsal.machine.host.Honest ∧ Rehearsal.machine.workingDirectory w = .ok here ∧
      here.isAbsolute = true ∧ file.text ≠ "" ∧
      Rehearsal.machine.Ends none file (.normalize here file) true w 1 (some published) ∧
      ∀ verbose format input,
        let result := Rehearsal.machine.perform ⟨none, verbose, request file true format⟩ input w
        result.code = 1 ∧ result.stdout = format.report published := by
  intro answer w here file published
  have hfile : file.text ≠ "" := by decide +kernel
  have hread : FileReport.readAll answer.stdout = .ok [
      ⟨"b.js", [⟨none, 2, "odd", none, none, none, none⟩]⟩, ⟨"src/../a.js", []⟩] := by
    decide +kernel
  have hanswers : Rehearsal.machine.Answers none file (.normalize here file) true w {}
      ⟨⟨"/p/.eslintrc"⟩, ⟨"/p"⟩, ⟨"eslint"⟩⟩ (.ok answer) := by
    refine ⟨⟨?_, .inl rfl⟩, ?_, rfl⟩ <;> decide +kernel
  have hreports : Rehearsal.machine.Reports none file (.normalize here file) true w {} ⟨"/p"⟩ _
      published :=
    ⟨⟨_, answer, hanswers, rfl, .inr rfl, hread⟩, by decide +kernel⟩
  have hends := Ends.alarmed hreports
    ⟨rfl, _, List.mem_cons_self, _, List.mem_cons_self, rfl, _, List.mem_cons_of_mem _
      List.mem_cons_self, by decide +kernel⟩
  have hhere : Rehearsal.machine.workingDirectory w = .ok here := rfl
  have habs : here.isAbsolute = true := by decide +kernel
  obtain ⟨-, -, hlaw⟩ :=
    Rehearsal.machine.perform_ends Rehearsal.honest_machine hhere habs none hfile true
  exact ⟨Rehearsal.honest_machine, hhere, habs, hfile, hends, (hlaw _ _ hends).2⟩

end LintBridge
