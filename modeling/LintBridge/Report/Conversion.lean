/-
# From reports to diagnostics

The violations of a report become diagnostics: positions are counted from zero, the severity is one
of two, and the message may name the rule.  Reports on one file are put together, however its path
is spelled.

* `Violation.toDiagnostic`: the diagnostic of a violation.
* `DiagnosticSet.ofReports`: the diagnostics of a list of reports.
* `DiagnosticSet.ofText`: the diagnostics of a printed text.
-/
import LintBridge.Diagnostic.Set
import LintBridge.Path.Normal
import LintBridge.Report.Basic

namespace LintBridge

/-- Which violations are errors. -/
inductive SeverityPolicy where
  /-- Those with the severity number 2. -/
  | graded
  /-- None. -/
  | warningOnly
deriving DecidableEq, Repr, Inhabited

namespace SeverityPolicy

/-- The policies with their names. -/
def names : List (String × SeverityPolicy) := [("graded", graded), ("warning-only", warningOnly)]

/-- The name of a policy. -/
def name : SeverityPolicy → String
  | graded => "graded"
  | warningOnly => "warning-only"

/-- The severity for a number of the lint tool. -/
def severity : SeverityPolicy → UInt8 → Severity
  | graded, code => if code = 2 then .error else .warning
  | warningOnly, _ => .warning

/-- Read a policy. -/
def read : Json.Reader SeverityPolicy := Json.readName names

end SeverityPolicy

/-- What happens to a file whose report has no violation. -/
inductive EmptyPolicy where
  /-- It stays in the set, without diagnostics. -/
  | retain
  /-- It is left out of the set. -/
  | drop
deriving DecidableEq, Repr, Inhabited

namespace EmptyPolicy

/-- The policies with their names. -/
def names : List (String × EmptyPolicy) := [("retain", retain), ("omit", drop)]

/-- The name of a policy. -/
def name : EmptyPolicy → String
  | retain => "retain"
  | drop => "omit"

/-- Read a policy. -/
def read : Json.Reader EmptyPolicy := Json.readName names

end EmptyPolicy

/-- The choices in making diagnostics of violations. -/
structure ConversionOptions where
  /-- Which violations are errors. -/
  severity : SeverityPolicy := .graded
  /-- What happens to files without violations. -/
  emptyRecords : EmptyPolicy := .retain
  /-- Whether the message names the rule. -/
  ruleInMessage : Bool := true
deriving DecidableEq, Repr, Inhabited

/-- A number counted from one, counted from zero; zero itself stays. -/
def zeroBased (n : UInt32) : UInt32 := if n = 0 then 0 else n - 1

namespace Violation

/-- Where a violation starts: a missing line or column is the first one. -/
def start (v : Violation) : Position :=
  ⟨zeroBased (v.line.getD 1), zeroBased (v.column.getD 1)⟩

/-- Where a violation ends: a missing line or column is that of the start. -/
def stop (v : Violation) : Position :=
  ⟨(v.endLine.map zeroBased).getD v.start.line, (v.endColumn.map zeroBased).getD v.start.character⟩

/-- The message, followed by the rule in parentheses if that is wanted and there is one. -/
def text (ruleInMessage : Bool) (v : Violation) : String :=
  match v.ruleId, ruleInMessage with
  | some rule, true => v.message ++ " (" ++ rule ++ ")"
  | _, _ => v.message

/-- The diagnostic of a violation. -/
def toDiagnostic (o : ConversionOptions) (v : Violation) : Diagnostic where
  message := v.text o.ruleInMessage
  range := ⟨v.start, v.stop⟩
  severity := o.severity.severity v.severity
  ruleType := v.ruleId

end Violation

namespace DiagnosticSet

/-- Add the report on a file. -/
def addReport (o : ConversionOptions) (base : Path) (s : DiagnosticSet) (r : FileReport) :
    DiagnosticSet :=
  let p := Path.normalize base ⟨r.filePath⟩
  match r.violations, o.emptyRecords with
  | [], .retain => s.touch p
  | [], .drop => s
  | vs, _ => vs.foldl (fun s v => s.push p (v.toDiagnostic o)) s

/-- The diagnostics of a list of reports.  Relative paths are seen from `base`. -/
def ofReports (o : ConversionOptions) (base : Path) (reports : List FileReport) : DiagnosticSet :=
  reports.foldl (addReport o base) empty

/-- The diagnostics of a printed text. -/
def ofText (o : ConversionOptions) (base : Path) (text : String) : Except Failure DiagnosticSet :=
  (FileReport.readAll text).map (ofReports o base)

end DiagnosticSet

end LintBridge
