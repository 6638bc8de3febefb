/-
# Where a command looks

A command reads few files: those it is given by name, the settings files and lint configurations on
the way up, and the lint tool.

* `CommandLine.places`: the files that a command looks at before the settings are known.
* `Settings.places`: the files it looks at when it lints a file.
-/
import LintBridge.CommandLine.Serve
import LintBridge.CommandLine.Init
import LintBridge.Path.Normal

namespace LintBridge

/-- The files that a request names. -/
def Request.operands : Request → List Path
  | lint file _ => [file]
  | fix file _ => [file]
  | normalize input => input.toList
  | serve => []
  | init _ => []

/-- Whether a request reads the standard input. -/
def Request.readsInput : Request → Bool
  | normalize none => true
  | serve => true
  | _ => false

/-- The files that a command looks at before the settings are known. -/
def CommandLine.places (line : CommandLine) (here : Path) : List Path :=
  line.config.toList ++ line.request.operands ++ [defaultFile] ++
    candidates here Settings.fileNames

/-- The files that are looked at when a file is linted in the current directory `here`. -/
def Settings.places (s : Settings) (here file : Path) : List Path :=
  match Path.absolute (.ok here) file with
  | .error _ => []
  | .ok target =>
    let dir := Project.directoryOf target
    candidates dir (s.configFiles ++ [(toolPlace s.tool).text]) ++
      Shell.searchPath.map fun programs => Path.join ⟨programs⟩ ⟨s.tool⟩

/-- The file that an event is about, if the session would lint one. -/
def Session.fileOf (s : Session) : Event → Option Path
  | .bufferSaved filePath => filePath
  | .bufferEnter filePath => filePath
  | .command _ => s.lastTarget

/-- The files that are looked at in reaction to a line. -/
def Service.places {σ : Type} (s : Service σ) (here : Path) (line : String) : List Path :=
  match Event.ofLine line with
  | .error _ => []
  | .ok event =>
    match s.session.fileOf event with
    | none => []
    | some file => s.session.settings.places here file

end LintBridge
