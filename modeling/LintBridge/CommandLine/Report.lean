/-
# Reports of publications

* `reportText`: publications for people.
* `reportJson`: publications for programs.
* `publicationLine`, `failureLine`: the lines that an editor reads.
-/
import LintBridge.CommandLine.Arguments
import LintBridge.Failure
import LintBridge.Json.Writer
import LintBridge.Publication

namespace LintBridge

/-- The line of a diagnostic; positions are counted from one. -/
def diagnosticLine (d : Diagnostic) : String :=
  "  " ++ toString (d.range.start.line.toNat + 1) ++ ":" ++
    toString (d.range.start.character.toNat + 1) ++ " " ++ d.severity.word ++ ": " ++
    d.message ++ "\n"

/-- The part of a report about one publication; files without diagnostics have none. -/
def publicationText (p : Publication) : String :=
  if p.isClear then ""
  else "\n" ++ p.path.text ++ ":\n" ++ String.join (p.diagnostics.map diagnosticLine)

/-- The last line of a report. -/
def summary (ps : List Publication) : String :=
  "\nChecked " ++ toString ps.length ++ " files (" ++ toString (ps.countP Publication.isClear) ++
    " clean), found " ++ toString (ps.flatMap Publication.diagnostics).length ++ " issues\n"

/-- A report for people. -/
def reportText (ps : List Publication) : String :=
  String.join (ps.map publicationText) ++ summary ps

/-- A report for programs. -/
def reportJson (ps : List Publication) : String :=
  (Json.array (ps.map Publication.toJson)).prettyText ++ "\n"

/-- A report in a format. -/
def ReportFormat.report : ReportFormat → List Publication → String
  | text => reportText
  | json => reportJson

/-- The line that brings a publication to the editor. -/
def publicationLine (p : Publication) : String := p.toJson.compactText ++ "\n"

/-- The line that tells the editor of a failure. -/
def failureLine (e : Failure) : String :=
  (Json.object [("error", .string e.message)]).compactText ++ "\n"

end LintBridge
