/-
# Serving an editor

Every line of the input that is an event is handled; what it leads to is printed, line by line.  A
line that is no event is passed over, and a failure is reported to the editor without an end to the
service.

* `Service.react`: what one line leads to.
* `Machine.serve`: what the whole input leads to.
-/
import LintBridge.CommandLine.Machine
import LintBridge.CommandLine.Report

namespace LintBridge

/-- The event of a line, around which white space does not count. -/
def Event.ofLine (line : String) : Except Json.Fault Event :=
  Json.readAll Event.read (Text.trimChars line.toList)

/-- Whether a line is blank. -/
def isBlankLine (line : String) : Bool := line.toList.all Text.isBlank

/-- The lines of a text. -/
def linesOf (text : String) : List String := (Text.split '\n' text.toList).map String.ofList

/-- How far the service of an editor is. -/
structure Service (σ : Type) where
  /-- The session with the editor. -/
  session : Session
  /-- The surroundings. -/
  world : σ
  /-- What was printed. -/
  stdout : String
  /-- What was said about the work. -/
  log : List Message

namespace Service

variable {σ : Type}

/-- The service before the first line. -/
def start (settings : Settings) (log : List Message) (w : σ) : Service σ :=
  ⟨.start settings, w, "", log ++ [⟨.info, "Waiting for editor events on stdin"⟩]⟩

/-- What is printed after an event. -/
def answer (step : Step σ) : String :=
  match step.result with
  | .ok _ => String.join (step.sent.map publicationLine)
  | .error e => String.join (step.sent.map publicationLine) ++ failureLine e

/-- What is said about a step. -/
def messages (step : Step σ) : List Message :=
  step.notes.map Note.message ++
    match step.result with
    | .ok _ => []
    | .error e => [⟨.error, "Lint failed: " ++ e.message⟩]

/-- Handle an event. -/
def handle (m : Machine σ) (s : Service σ) (event : Event) : Service σ :=
  let step := s.session.handle m.host event s.world
  ⟨step.session, step.world, s.stdout ++ answer step, s.log ++ messages step⟩

/-- React to a line. -/
def react (m : Machine σ) (s : Service σ) (line : String) : Service σ :=
  if isBlankLine line then s
  else
    match Event.ofLine line with
    | .ok event => s.handle m event
    | .error fault =>
      let text :=
        "Ignoring malformed event " ++ Text.quote (Text.trim line) ++ ": " ++ fault.message
      { s with log := s.log ++ [⟨.warning, text⟩] }

/-- The result of the service after the last line. -/
def finish (s : Service σ) : CommandResult σ :=
  ⟨0, s.stdout, s.log ++ [⟨.info, "Input closed, shutting down"⟩], s.world⟩

end Service

/-- Serve an editor until the input ends. -/
def Machine.serve {σ : Type} (m : Machine σ) (settings : Settings) (log : List Message)
    (input : String) (w : σ) : CommandResult σ :=
  ((linesOf input).foldl (Service.react m) (.start settings log w)).finish

end LintBridge
