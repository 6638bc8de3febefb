/-
# Diagnostics

What the editor shows in a file: a message at a range of positions, with a severity and perhaps the
rule that was broken.  Lines and characters are counted from zero, in 32 bits.

* `Diagnostic`: one message.
* `Diagnostic.toJson`: how it is sent to the editor.
-/
import LintBridge.Json.Typed

namespace LintBridge

/-- A place in a file. -/
structure Position where
  /-- The line, counted from zero. -/
  line : UInt32
  /-- The character in the line, counted from zero. -/
  character : UInt32
deriving DecidableEq, Repr, Inhabited

namespace Position

/-- Positions are ordered by line, then by character. -/
def order (a b : Position) : Ordering :=
  (compare a.line b.line).then (compare a.character b.character)

/-- The JSON form. -/
def toJson (p : Position) : Json :=
  .object [("line", .ofNat p.line.toNat), ("character", .ofNat p.character.toNat)]

/-- A position being read. -/
structure Draft where
  line : Option UInt32
  character : Option UInt32

/-- How a position is read. -/
def record : Json.Record Draft Position where
  what := "struct Position"
  fields := [
    .of "line" Draft.line (fun d x => { d with line := some x }) Json.readUInt32,
    .of "character" Draft.character (fun d x => { d with character := some x }) Json.readUInt32]
  blank := ⟨none, none⟩
  complete d :=
    match d.line, d.character with
    | none, _ => .error "line"
    | _, none => .error "character"
    | some line, some character => .ok ⟨line, character⟩

/-- Read a position. -/
def read : Json.Reader Position := Json.readRecord record

end Position

/-- A stretch of a file. -/
structure Range where
  /-- Where the range starts. -/
  start : Position
  /-- Where the range ends. -/
  stop : Position
deriving DecidableEq, Repr, Inhabited

namespace Range

/-- The empty range at a position. -/
def point (p : Position) : Range := ⟨p, p⟩

/-- Ranges are ordered by start, then by end. -/
def order (a b : Range) : Ordering := (a.start.order b.start).then (a.stop.order b.stop)

/-- The JSON form. -/
def toJson (r : Range) : Json := .object [("start", r.start.toJson), ("end", r.stop.toJson)]

/-- A range being read. -/
structure Draft where
  start : Option Position
  stop : Option Position

/-- How a range is read. -/
def record : Json.Record Draft Range where
  what := "struct Range"
  fields := [
    .of "start" Draft.start (fun d x => { d with start := some x }) Position.read,
    .of "end" Draft.stop (fun d x => { d with stop := some x }) Position.read]
  blank := ⟨none, none⟩
  complete d :=
    match d.start, d.stop with
    | none, _ => .error "start"
    | _, none => .error "end"
    | some start, some stop => .ok ⟨start, stop⟩

/-- Read a range. -/
def read : Json.Reader Range := Json.readRecord record

end Range

/-- How serious a diagnostic is. -/
inductive Severity where
  | error
  | warning
deriving DecidableEq, Repr, Inhabited

namespace Severity

/-- The number the editor knows the severity by. -/
def code : Severity → UInt8
  | error => 1
  | warning => 2

/-- The severity with a given number. -/
def ofCode? (code : UInt8) : Option Severity :=
  if code = 1 then some error else if code = 2 then some warning else none

@[simp] theorem ofCode?_code (s : Severity) : ofCode? s.code = some s := by
  cases s <;> rfl

/-- The word for the severity. -/
def word : Severity → String
  | error => "error"
  | warning => "warning"

/-- Errors come before warnings. -/
def order (a b : Severity) : Ordering := compare a.code b.code

/-- The JSON form. -/
def toJson (s : Severity) : Json := .ofNat s.code.toNat

/-- Read a severity. -/
def read : Json.Reader Severity := fun s => do
  let (n, rest) ← Json.readUInt8 s
  match ofCode? n with
  | some severity => .ok (severity, rest)
  | none => .error (.badSeverity n.toNat)

end Severity

/-- One message of a file. -/
structure Diagnostic where
  /-- The message. -/
  message : String
  /-- Where it is shown. -/
  range : Range
  /-- How serious it is. -/
  severity : Severity
  /-- The rule that was broken. -/
  ruleType : Option String
deriving DecidableEq, Repr, Inhabited

namespace Diagnostic

/-- A warning without a rule. -/
def warning (message : String) (range : Range) : Diagnostic := ⟨message, range, .warning, none⟩

/-- Whether the diagnostic is an error. -/
def isError (d : Diagnostic) : Bool := d.severity = .error

/-- The JSON form; a missing rule is left out. -/
def toJson (d : Diagnostic) : Json :=
  .object <|
    [("message", .string d.message), ("range", d.range.toJson), ("severity", d.severity.toJson)] ++
      (d.ruleType.map fun r => ("ruleType", Json.string r)).toList

/-- A diagnostic being read. -/
structure Draft where
  message : Option String
  range : Option Range
  severity : Option Severity
  ruleType : Option (Option String)

/-- How a diagnostic is read: without a severity it is a warning. -/
def record : Json.Record Draft Diagnostic where
  what := "struct Diagnostic"
  fields := [
    .of "message" Draft.message (fun d x => { d with message := some x }) Json.readString,
    .of "range" Draft.range (fun d x => { d with range := some x }) Range.read,
    .of "severity" Draft.severity (fun d x => { d with severity := some x }) Severity.read,
    .of "ruleType" Draft.ruleType (fun d x => { d with ruleType := some x })
      (Json.readOption Json.readString)]
  blank := ⟨none, none, none, none⟩
  complete d :=
    match d.message, d.range with
    | none, _ => .error "message"
    | _, none => .error "range"
    | some message, some range =>
      .ok ⟨message, range, d.severity.getD .warning, d.ruleType.getD none⟩

/-- Read a diagnostic. -/
def read : Json.Reader Diagnostic := Json.readRecord record

/-- The JSON form of a list of diagnostics. -/
def listToJson (ds : List Diagnostic) : Json := .array (ds.map toJson)

end Diagnostic

end LintBridge
