/-
# Settings files

A settings file is commented JSON.  It is read as a value, the value is held against the schema, and
what it leaves out takes its default.  An empty file leaves out everything.

* `Settings.ofText`: the settings of a file's text.
-/
import LintBridge.Jsonc.Document
import LintBridge.Settings.Schema

namespace LintBridge.Settings

/-- The value of a settings text: an empty object if there is none. -/
def valueOfText (text : String) : Except Jsonc.Fault Json := do
  match ← Jsonc.read text.toList with
  | none => return .object []
  | some v => return v.sorted

/-- The settings of a value that is held against the schema. -/
def ofValue (v : Json) : Except Failure Settings :=
  match check v with
  | some complaint => .error (.settings ("Settings validation failed: " ++ complaint.message))
  | none =>
    match ofJson v with
    | .error fault => .error (.settings ("Invalid settings: " ++ fault.message))
    | .ok s => .ok s

/-- The settings of a text. -/
def ofText (text : String) : Except Failure Settings :=
  match valueOfText text with
  | .error fault => .error (.settings ("Invalid JSON: " ++ fault.message))
  | .ok v => ofValue v

end LintBridge.Settings
