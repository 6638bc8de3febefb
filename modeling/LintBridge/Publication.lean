/-
# Publications

What is sent to the editor: the whole list of diagnostics of one file, never a change to it.  An
empty list clears the file.

* `Publication`: one message to the editor.
* `Publication.toJson`, `Publication.read`: its JSON form.
-/
import LintBridge.Diagnostic.Basic
import LintBridge.Path.Basic

namespace LintBridge

/-- The whole list of diagnostics of a file, as it is sent to the editor. -/
structure Publication where
  /-- Who sends the list. -/
  source : String
  /-- The file. -/
  path : Path
  /-- Its diagnostics. -/
  diagnostics : List Diagnostic
  /-- A hint for the color to show them in. -/
  color : Option String
deriving DecidableEq, Repr, Inhabited

namespace Publication

/-- Whether the publication clears its file. -/
def isClear (p : Publication) : Bool := p.diagnostics.isEmpty

/-- Whether a published diagnostic is an error. -/
def hasErrors (p : Publication) : Bool := p.diagnostics.any Diagnostic.isError

/-- The JSON form; a missing color is left out. -/
def toJson (p : Publication) : Json :=
  .object <|
    [("source", .string p.source), ("filePath", .string p.path.text),
      ("diagnostics", Diagnostic.listToJson p.diagnostics)] ++
      (p.color.map fun c => ("color", Json.string c)).toList

/-- A publication being read. -/
structure Draft where
  source : Option String
  path : Option String
  diagnostics : Option (List Diagnostic)
  color : Option (Option String)

/-- How a publication is read: only the color may be missing. -/
def record : Json.Record Draft Publication where
  what := "struct PublishedDiagnostics"
  fields := [
    .of "source" Draft.source (fun d x => { d with source := some x }) Json.readString,
    .of "filePath" Draft.path (fun d x => { d with path := some x })
      (Json.readStringAs "path string"),
    .of "diagnostics" Draft.diagnostics (fun d x => { d with diagnostics := some x })
      (Json.readList Diagnostic.read),
    .of "color" Draft.color (fun d x => { d with color := some x })
      (Json.readOption Json.readString)]
  blank := ⟨none, none, none, none⟩
  complete d :=
    match d.source, d.path, d.diagnostics with
    | none, _, _ => .error "source"
    | _, none, _ => .error "filePath"
    | _, _, none => .error "diagnostics"
    | some source, some path, some diagnostics =>
      .ok ⟨source, ⟨path⟩, diagnostics, d.color.getD none⟩

/-- Read a publication. -/
def read : Json.Reader Publication := Json.readRecord record

end Publication

end LintBridge
