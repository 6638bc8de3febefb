/-
# Reports of the lint tool

The lint tool prints a JSON list with a report for each file it looked at, and each report lists the
violations found there.  Lines and columns are counted from one, and a severity is a bare number.

* `Violation`, `FileReport`: the reports.
* `FileReport.readAll`: the reports of a printed text.
-/
import LintBridge.Failure
import LintBridge.Json.Typed
import LintBridge.Text.Blank

namespace LintBridge

/-- One violation, with positions as far as the lint tool knows them. -/
structure Violation where
  /-- The rule that was broken. -/
  ruleId : Option String
  /-- The severity, as a number of the lint tool. -/
  severity : UInt8
  /-- The message. -/
  message : String
  /-- The line of the start. -/
  line : Option UInt32
  /-- The column of the start. -/
  column : Option UInt32
  /-- The line of the end. -/
  endLine : Option UInt32
  /-- The column of the end. -/
  endColumn : Option UInt32
deriving DecidableEq, Repr, Inhabited

namespace Violation

/-- A violation being read. -/
structure Draft where
  ruleId : Option (Option String)
  severity : Option UInt8
  message : Option String
  line : Option (Option UInt32)
  column : Option (Option UInt32)
  endLine : Option (Option UInt32)
  endColumn : Option (Option UInt32)

/-- How a violation is read: only its message is required. -/
def record : Json.Record Draft Violation where
  what := "struct RawViolation"
  fields := [
    .of "ruleId" Draft.ruleId (fun d x => { d with ruleId := some x })
      (Json.readOption Json.readString),
    .of "severity" Draft.severity (fun d x => { d with severity := some x }) Json.readUInt8,
    .of "message" Draft.message (fun d x => { d with message := some x }) Json.readString,
    .of "line" Draft.line (fun d x => { d with line := some x })
      (Json.readOption Json.readUInt32),
    .of "column" Draft.column (fun d x => { d with column := some x })
      (Json.readOption Json.readUInt32),
    .of "endLine" Draft.endLine (fun d x => { d with endLine := some x })
      (Json.readOption Json.readUInt32),
    .of "endColumn" Draft.endColumn (fun d x => { d with endColumn := some x })
      (Json.readOption Json.readUInt32)]
  blank := ⟨none, none, none, none, none, none, none⟩
  complete d :=
    match d.message with
    | none => .error "message"
    | some message =>
      .ok ⟨d.ruleId.getD none, d.severity.getD 0, message, d.line.getD none, d.column.getD none,
        d.endLine.getD none, d.endColumn.getD none⟩

/-- Read a violation. -/
def read : Json.Reader Violation := Json.readRecord record

end Violation

/-- The report on one file. -/
structure FileReport where
  /-- The path of the file, as the lint tool spells it. -/
  filePath : String
  /-- The violations, in the order they were found. -/
  violations : List Violation
deriving DecidableEq, Repr, Inhabited

namespace FileReport

/-- A report being read. -/
structure Draft where
  filePath : Option String
  violations : Option (List Violation)

/-- How a report is read: only the path is required. -/
def record : Json.Record Draft FileReport where
  what := "struct RawFileRecord"
  fields := [
    .of "filePath" Draft.filePath (fun d x => { d with filePath := some x }) Json.readString,
    .of "messages" Draft.violations (fun d x => { d with violations := some x })
      (Json.readList Violation.read)]
  blank := ⟨none, none⟩
  complete d :=
    match d.filePath with
    | none => .error "filePath"
    | some filePath => .ok ⟨filePath, d.violations.getD []⟩

/-- Read a report. -/
def read : Json.Reader FileReport := Json.readRecord record

/-- The reports of a printed text, around which white space does not count. -/
def readAll (text : String) : Except Failure (List FileReport) :=
  match Json.readAll (Json.readList read) (Text.trimChars text.toList) with
  | .ok reports => .ok reports
  | .error fault => .error (.parse ("Invalid tool output: " ++ fault.message))

end FileReport

end LintBridge
