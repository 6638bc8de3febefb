/-
# Reports for people

A report names every file with violations and lists them below it, under the lines and columns that
the lint tool gave.  A position is kept counted from zero, and the report adds one to it; this
cannot be too much for a line or column of 32 bits, because every diagnostic was made of a
violation.

* `diagnosticLine_toDiagnostic`: a diagnostic is printed as the violation it was made of.
* `reportText_eq`: a report on publications is one on violations.
* `Machine.reports_of_stdout`: what is printed comes of reports of the lint tool.
* `Machine.prints_violations`: the law.
-/
import LintBridge.Proofs.CommandLine.Verdict
import LintBridge.Proofs.Report.Positions

namespace LintBridge

variable {σ : Type}

/-! ## Violations in a report -/

/-- The number of a line or column as people read it: a missing number and a zero are a one. -/
def oneBased : Option UInt32 → Nat
  | none => 1
  | some n => max 1 n.toNat

/-- Such a number has 32 bits. -/
lemma oneBased_lt (n : Option UInt32) : oneBased n < UInt32.size := by
  cases n with
  | none => decide
  | some n => exact Nat.max_lt.2 ⟨by decide, n.toNat_lt⟩

namespace Violation

/-- The line of a violation in a report. -/
def reportLine (o : ConversionOptions) (v : Violation) : String :=
  "  " ++ toString (oneBased v.line) ++ ":" ++ toString (oneBased v.column) ++ " " ++
    (o.severity.severity v.severity).word ++ ": " ++ v.text o.ruleInMessage ++ "\n"

/-- Counted from one again, a violation starts where the lint tool says. -/
lemma start_add_one (v : Violation) :
    v.start.line.toNat + 1 = oneBased v.line ∧ v.start.character.toNat + 1 = oneBased v.column := by
  rw [start_eq]
  constructor <;> simp only [Position.zeroBased, givenStart, toNat_zeroBased_add_one]
  · cases v.line <;> rfl
  · cases v.column <;> rfl

end Violation

/-- A diagnostic is printed as the violation it was made of. -/
theorem diagnosticLine_toDiagnostic (o : ConversionOptions) (v : Violation) :
    diagnosticLine (v.toDiagnostic o) = v.reportLine o := by
  have hline : (v.toDiagnostic o).range.start.line.toNat + 1 = oneBased v.line := v.start_add_one.1
  have hcolumn : (v.toDiagnostic o).range.start.character.toNat + 1 = oneBased v.column :=
    v.start_add_one.2
  simp only [diagnosticLine, Violation.reportLine, hline, hcolumn]
  rfl

/-! ## Files in a report -/

/-- The part of a report on a file with violations. -/
def fileText (o : ConversionOptions) (file : Path × List Violation) : String :=
  "\n" ++ file.1.text ++ ":\n" ++ String.join (file.2.map (Violation.reportLine o))

/-- The last line of a report, with the number of files, of those that are clean, and of issues. -/
def summaryText (files clean issues : Nat) : String :=
  "\nChecked " ++ toString files ++ " files (" ++ toString clean ++ " clean), found " ++
    toString issues ++ " issues\n"

/-- The files that a report names, with their violations: those of all publications that do not
clear a file, in the order of the publications. -/
def namedFiles (violations : Path → List Violation) (ps : List Publication) :
    List (Path × List Violation) :=
  (ps.filter fun p => !p.isClear).map fun p => (p.path, violations p.path)

section Report

variable {o : ConversionOptions} {violations : Path → List Violation} {ps : List Publication}

lemma publicationText_eq {p : Publication} {vs : List Violation}
    (h : p.diagnostics = vs.map (Violation.toDiagnostic o)) :
    publicationText p = if p.isClear = true then "" else fileText o (p.path, vs) := by
  rw [publicationText, fileText, h, List.map_map]
  have hlines : diagnosticLine ∘ Violation.toDiagnostic o = Violation.reportLine o :=
    funext (diagnosticLine_toDiagnostic o)
  rw [hlines]

/-- Files without violations are not named. -/
lemma join_publicationText
    (h : ∀ p ∈ ps, p.diagnostics = (violations p.path).map (Violation.toDiagnostic o)) :
    String.join (ps.map publicationText) =
      String.join ((namedFiles violations ps).map (fileText o)) := by
  induction ps with
  | nil => rfl
  | cons p rest ih =>
    have hrest := ih fun q hq => h q (List.mem_cons_of_mem p hq)
    rw [List.map_cons, String.join_cons, hrest, publicationText_eq (h p List.mem_cons_self),
      namedFiles, namedFiles, List.filter_cons]
    cases hclear : p.isClear <;> simp [String.join_cons]

/-- The violations of the files that are named are all that was published. -/
lemma length_namedFiles
    (h : ∀ p ∈ ps, p.diagnostics = (violations p.path).map (Violation.toDiagnostic o)) :
    ((namedFiles violations ps).flatMap Prod.snd).length =
      (ps.flatMap Publication.diagnostics).length := by
  induction ps with
  | nil => rfl
  | cons p rest ih =>
    have hrest := ih fun q hq => h q (List.mem_cons_of_mem p hq)
    have hp : (violations p.path).length = p.diagnostics.length := by
      rw [h p List.mem_cons_self, List.length_map]
    rw [List.flatMap_cons, List.length_append, ← hrest, namedFiles, namedFiles, List.filter_cons]
    cases hclear : p.isClear with
    | true =>
      rw [Publication.isClear, List.isEmpty_iff] at hclear
      simp [hclear]
    | false => simp [hp]

/-- **A report on publications is one on violations.**  It names the files with violations, and its
numbers are those of the publications, of the empty ones, and of the violations that it lists. -/
theorem reportText_eq
    (h : ∀ p ∈ ps, p.diagnostics = (violations p.path).map (Violation.toDiagnostic o)) :
    reportText ps = String.join ((namedFiles violations ps).map (fileText o)) ++
      summaryText ps.length (ps.countP Publication.isClear)
        ((namedFiles violations ps).flatMap Prod.snd).length := by
  rw [reportText, join_publicationText h, length_namedFiles h]
  rfl

end Report

/-! ## Where reports come from -/

namespace Machine

variable {m : Machine σ} {config : Option Path} {file target : Path} {autofix : Bool} {w : σ}
  {settings : Settings} {root : Path} {reports : List FileReport} {published : List Publication}

/-- A publication has the violations on its file. -/
lemma Reports.diagnostics_eq
    (h : m.Reports config file target autofix w settings root reports published) {p : Publication}
    (hp : p ∈ published) : p.diagnostics =
      (FileReport.violationsOn root reports p.path).map
        (Violation.toDiagnostic settings.conversion) := by
  rw [diagnostics_of_mem_reported (h.published ▸ hp), DiagnosticSet.screen_ofReports,
    DiagnosticSet.gathered_eq_map]

/-- A publication is empty if there are no violations on its file. -/
lemma Reports.isClear_iff
    (h : m.Reports config file target autofix w settings root reports published) {p : Publication}
    (hp : p ∈ published) :
    p.isClear = true ↔ FileReport.violationsOn root reports p.path = [] := by
  rw [Publication.isClear, h.diagnostics_eq hp, List.isEmpty_iff, List.map_eq_nil_iff]

/-- One can be added to the position of every diagnostic that is published. -/
lemma Reports.start_add_one_lt
    (h : m.Reports config file target autofix w settings root reports published) {p : Publication}
    (hp : p ∈ published) {d : Diagnostic} (hd : d ∈ p.diagnostics) :
    d.range.start.line.toNat + 1 < UInt32.size ∧
      d.range.start.character.toNat + 1 < UInt32.size := by
  rw [h.diagnostics_eq hp] at hd
  obtain ⟨v, -, rfl⟩ := List.mem_map.1 hd
  obtain ⟨hline, hcolumn⟩ := v.start_add_one
  exact ⟨hline ▸ oneBased_lt v.line, hcolumn ▸ oneBased_lt v.column⟩

variable {verbose : Bool} {format : ReportFormat} {input : String}

/-- Only reports of the lint tool are reported. -/
lemma Ends.exists_reports {code : Nat}
    (h : m.Ends config file target autofix w code (some published)) :
    ∃ settings root reports,
      m.Reports config file target autofix w settings root reports published := by
  cases h with
  | alarmed hreports => exact ⟨_, _, _, hreports⟩
  | quiet hreports => exact ⟨_, _, _, hreports⟩

/-- Without a target, the session does nothing. -/
lemma lintStep_of_unplaced {reason : String}
    (htarget : Path.absolute (m.workingDirectory w) file = .error reason) :
    (m.lintStep settings file autofix w).result = .error (.io reason) ∨
      (m.lintStep settings file autofix w).result = .ok (.skipped .unsupportedFileType) := by
  have hhost : Path.absolute (m.host.workingDirectory w) file = .error reason := htarget
  rw [lintStep]
  cases autofix with
  | true =>
    rw [if_pos rfl, Session.lintProject, hhost]
    exact .inl rfl
  | false =>
    rw [if_neg Bool.false_ne_true, Session.lintFile, hhost]
    split
    · exact .inl rfl
    · exact .inr rfl

lemma stdout_of_unplaced {reason : String}
    (htarget : Path.absolute (m.workingDirectory w) file = .error reason) :
    (m.perform ⟨config, verbose, request file autofix format⟩ input w).stdout = "" := by
  cases hloaded : (m.loadSettings config w).result with
  | error reason => exact (perform_of_unloaded hloaded).2
  | ok settings =>
    rw [perform_of_loaded hloaded]
    rcases lintStep_of_unplaced htarget with herror | hskipped
    · exact (lint_of_error _ format herror).2
    · exact (lint_of_skipped _ format hskipped).2

/-- If anything is printed, then the lint tool has printed reports. -/
lemma reports_of_stdout
    (h : (m.perform ⟨config, verbose, request file autofix format⟩ input w).stdout ≠ "") :
    ∃ target settings root reports published,
      Path.absolute (m.workingDirectory w) file = .ok target ∧
      m.Reports config file target autofix w settings root reports published := by
  cases htarget : Path.absolute (m.workingDirectory w) file with
  | error reason => exact absurd (stdout_of_unplaced htarget) h
  | ok target =>
    obtain ⟨code, report, hends⟩ := exists_ends m config file target autofix w
    cases report with
    | none =>
      obtain ⟨_, hshows, -⟩ := hends.shows htarget verbose format input
      exact absurd hshows.2 h
    | some published =>
      obtain ⟨settings, root, reports, hreports⟩ := hends.exists_reports
      exact ⟨target, settings, root, reports, published, rfl, hreports⟩

/-! ## The law -/

/-- **Violations are reported as the lint tool gave them.**  Let a file be linted or fixed with a
report for people.  If the lint tool prints reports, then these are what is published, and the
report names the files with violations in the order of the publications, with the violations on each
in the order of the lint tool and under the numbers that it gave.  The last line tells how many
publications there are, how many of them are empty, and how many violations are listed above it.
Adding one to the position of a diagnostic does not need more than 32 bits.  If the lint tool prints
no reports, then nothing is printed. -/
theorem prints_violations (m : Machine σ) (config : Option Path) (verbose : Bool) (file : Path)
    (autofix : Bool) (input : String) (w : σ) :
    let result := m.perform ⟨config, verbose, request file autofix .text⟩ input w
    (∀ target settings root reports published,
      Path.absolute (m.workingDirectory w) file = .ok target →
      m.Reports config file target autofix w settings root reports published →
      let files := namedFiles (FileReport.violationsOn root reports) published
      (m.lintStep settings file autofix w).sent = published ∧
      (∀ p ∈ published, (p.isClear = true ↔ FileReport.violationsOn root reports p.path = []) ∧
        ∀ d ∈ p.diagnostics, d.range.start.line.toNat + 1 < UInt32.size ∧
          d.range.start.character.toNat + 1 < UInt32.size) ∧
      result.stdout = String.join (files.map (fileText settings.conversion)) ++
        summaryText published.length (published.countP Publication.isClear)
          (files.flatMap Prod.snd).length) ∧
    (result.stdout ≠ "" → ∃ target settings root reports published,
      Path.absolute (m.workingDirectory w) file = .ok target ∧
      m.Reports config file target autofix w settings root reports published) := by
  intro result
  refine ⟨?_, reports_of_stdout⟩
  intro target settings root reports published htarget hreports files
  have hprinted : result.stdout = reportText published := (perform_of_reports hreports htarget).2
  refine ⟨(lintStep_of_reports hreports htarget).2,
    fun p hp => ⟨hreports.isClear_iff hp, fun d => hreports.start_add_one_lt hp⟩, ?_⟩
  rw [hprinted]
  exact reportText_eq fun p => hreports.diagnostics_eq

/-- The last line of all, a missing column, and a file without violations. -/
theorem prints_violations_rehearsed :
    let answer : RunResult := ⟨some 1, "[\x7b\"filePath\":\"b.js\",\"messages\":[\x7b" ++
      "\"message\":\"odd\",\"line\":4294967295\x7d]\x7d,\x7b\"filePath\":\"a.js\"\x7d]", ""⟩
    let w : Rehearsal := ⟨[answer], 0⟩
    let file : Path := ⟨"a.js"⟩
    let target : Path := ⟨"/p/a.js"⟩
    let reports : List FileReport :=
      [⟨"b.js", [⟨none, 0, "odd", some 4294967295, none, none, none⟩]⟩, ⟨"a.js", []⟩]
    let published := reported {} target true (.ofReports {} ⟨"/p"⟩ reports)
    let result := Rehearsal.machine.perform ⟨none, false, request file true .text⟩ "" w
    Path.absolute (Rehearsal.machine.workingDirectory w) file = .ok target ∧
      Rehearsal.machine.Reports none file target true w {} ⟨"/p"⟩ reports published ∧
      result.stdout = "\n/p/b.js:\n  4294967295:1 warning: odd\n" ++
        "\nChecked 2 files (1 clean), found 1 issues\n" := by
  intro answer w file target reports published result
  have htarget : Path.absolute (Rehearsal.machine.workingDirectory w) file = .ok target := by
    decide +kernel
  have hread : FileReport.readAll answer.stdout = .ok reports := by decide +kernel
  have hanswers : Rehearsal.machine.Answers none file target true w {}
      ⟨⟨"/p/.eslintrc"⟩, ⟨"/p"⟩, ⟨"eslint"⟩⟩ (.ok answer) := by
    refine ⟨⟨?_, .inl rfl⟩, ?_, rfl⟩ <;> decide +kernel
  have hreports : Rehearsal.machine.Reports none file target true w {} ⟨"/p"⟩ reports published :=
    ⟨⟨_, answer, hanswers, rfl, .inr rfl, hread⟩, rfl⟩
  obtain ⟨hlaw, -⟩ := Rehearsal.machine.prints_violations none false file true "" w
  obtain ⟨-, -, hprinted⟩ := hlaw target {} ⟨"/p"⟩ reports published htarget hreports
  refine ⟨htarget, hreports, hprinted.trans ?_⟩
  decide +kernel

end Machine

end LintBridge
