/-
# Settings

What the user can choose: who sends the diagnostics, which files are linted, how the lint tool and
its configuration files are called, and how its reports become diagnostics.

* `Settings`: the choices, each with a default.
* `Settings.toJson`, `Settings.read`, `Settings.ofJson`: the JSON form.
* `Settings.accepts`: which files are linted.
-/
import LintBridge.Json.Tree
import LintBridge.Report.Conversion

namespace LintBridge

/-- The names of lint configuration files, the first one that is found being taken. -/
def defaultConfigFiles : List String := [
  ".eslintrc", ".eslintrc.js", ".eslintrc.cjs", ".eslintrc.json", ".eslintrc.yaml",
  ".eslintrc.yml", "eslint.config.js", "eslint.config.mjs", "eslint.config.cjs"]

/-- The choices of the user. -/
structure Settings where
  /-- Who sends the diagnostics. -/
  sourceId : String := "eslint-js"
  /-- The extensions of the files that are linted, each with its dot. -/
  extensions : List String := [".js", ".jsx"]
  /-- The names of lint configuration files. -/
  configFiles : List String := defaultConfigFiles
  /-- The name of the lint tool. -/
  tool : String := "eslint"
  /-- The color that goes with the diagnostics. -/
  colorHint : Option String := some "yellow"
  /-- Which violations are errors. -/
  severity : SeverityPolicy := .graded
  /-- What happens to files without violations. -/
  emptyRecords : EmptyPolicy := .retain
  /-- Whether a message names its rule. -/
  ruleInMessage : Bool := true
deriving DecidableEq, Repr, Inhabited

namespace Settings

/-- The names of settings files, the first one that is found being taken. -/
def fileNames : List String := [".lintrelay.jsonc", ".lintrelay.json"]

/-- How reports become diagnostics. -/
def conversion (s : Settings) : ConversionOptions := ⟨s.severity, s.emptyRecords, s.ruleInMessage⟩

/-- Whether a file is linted: its extension is one of those in the settings. -/
def accepts (s : Settings) (p : Path) : Bool :=
  match p.extension? with
  | none => false
  | some ext => s.extensions.any fun accepted => accepted = "." ++ ext

/-! ## The JSON form -/

/-- The JSON form; a missing color is written as `null`. -/
def toJson (s : Settings) : Json :=
  .object [
    ("sourceId", .string s.sourceId),
    ("extensions", .array (s.extensions.map .string)),
    ("configFiles", .array (s.configFiles.map .string)),
    ("tool", .string s.tool),
    ("colorHint", match s.colorHint with | none => .null | some c => .string c),
    ("severity", .string s.severity.name),
    ("emptyRecords", .string s.emptyRecords.name),
    ("ruleInMessage", .bool s.ruleInMessage)]

/-- Settings being read. -/
structure Draft where
  sourceId : Option String
  extensions : Option (List String)
  configFiles : Option (List String)
  tool : Option String
  colorHint : Option (Option String)
  severity : Option SeverityPolicy
  emptyRecords : Option EmptyPolicy
  ruleInMessage : Option Bool

/-- The settings of a draft: what is missing takes its default. -/
def Draft.complete (d : Draft) : Settings :=
  let default : Settings := {}
  { sourceId := d.sourceId.getD default.sourceId
    extensions := d.extensions.getD default.extensions
    configFiles := d.configFiles.getD default.configFiles
    tool := d.tool.getD default.tool
    colorHint := d.colorHint.getD default.colorHint
    severity := d.severity.getD default.severity
    emptyRecords := d.emptyRecords.getD default.emptyRecords
    ruleInMessage := d.ruleInMessage.getD default.ruleInMessage }

/-- How settings are read from a JSON text: none of the members is required. -/
def record : Json.Record Draft Settings where
  what := "struct RelaySettings"
  fields := [
    .of "sourceId" Draft.sourceId (fun d x => { d with sourceId := some x }) Json.readString,
    .of "extensions" Draft.extensions (fun d x => { d with extensions := some x })
      (Json.readList Json.readString),
    .of "configFiles" Draft.configFiles (fun d x => { d with configFiles := some x })
      (Json.readList Json.readString),
    .of "tool" Draft.tool (fun d x => { d with tool := some x }) Json.readString,
    .of "colorHint" Draft.colorHint (fun d x => { d with colorHint := some x })
      (Json.readOption Json.readString),
    .of "severity" Draft.severity (fun d x => { d with severity := some x }) SeverityPolicy.read,
    .of "emptyRecords" Draft.emptyRecords (fun d x => { d with emptyRecords := some x })
      EmptyPolicy.read,
    .of "ruleInMessage" Draft.ruleInMessage (fun d x => { d with ruleInMessage := some x })
      Json.readBool]
  blank := ⟨none, none, none, none, none, none, none, none⟩
  complete d := .ok d.complete

/-- Read settings from a JSON text. -/
def read : Json.Reader Settings := Json.readRecord record

/-- What a member of an object is for, if there is one of the given name. -/
def take {α : Type} (members : List (String × Json)) (name : String)
    (item : Json → Except Json.Fault α) : Except Json.Fault (Option α) :=
  match Json.member? name members with
  | none => .ok none
  | some v => (item v).map some

/-- The settings that a JSON value gives. -/
def ofJson : Json → Except Json.Fault Settings
  | .object members => do
    let texts : Json → Except Json.Fault (List String) := Json.asList Json.asString
    let d : Draft := {
      sourceId := ← take members "sourceId" Json.asString
      extensions := ← take members "extensions" texts
      configFiles := ← take members "configFiles" texts
      tool := ← take members "tool" Json.asString
      colorHint := ← take members "colorHint" (Json.asOption Json.asString)
      severity := ← take members "severity" (Json.asName SeverityPolicy.names)
      emptyRecords := ← take members "emptyRecords" (Json.asName EmptyPolicy.names)
      ruleInMessage := ← take members "ruleInMessage" Json.asBool }
    return d.complete
  | v => .error (.wrongType v.found record.what)

end Settings

end LintBridge
