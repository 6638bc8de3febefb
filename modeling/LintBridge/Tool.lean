/-
# Running the lint tool

* `Invocation`: how the lint tool is called.
* `RunResult`: what it left behind.
* `RunResult.report`: the printed report of a run that ended well.
-/
import LintBridge.Failure
import LintBridge.Text.Blank

namespace LintBridge

/-- A call of the lint tool. -/
structure Invocation where
  /-- The program, looked up in the search path if it has no separator. -/
  program : Path
  /-- Its arguments. -/
  args : List String
  /-- The directory in which it runs. -/
  directory : Path
deriving DecidableEq, Repr, Inhabited

namespace Invocation

/-- The argument that asks for fixing. -/
def fixArgument : String := "--fix"

/-- The call that lints the targets, and fixes them if `autofix` is true. -/
def make (program config : Path) (targets : List Path) (directory : Path) (autofix : Bool) :
    Invocation where
  program := program
  args := (if autofix then [fixArgument] else []) ++
    ["--format", "json", "--config", config.text] ++ targets.map Path.text
  directory := directory

/-- Whether the first argument asks for fixing. -/
def isAutofix (i : Invocation) : Bool := i.args.head? = some fixArgument

end Invocation

/-- What a run of the lint tool left behind. -/
structure RunResult where
  /-- The exit code; none if a signal ended the run. -/
  status : Option Int
  /-- What was printed. -/
  stdout : String
  /-- What was printed as an error. -/
  stderr : String
deriving DecidableEq, Repr, Inhabited

namespace RunResult

/-- The exit codes of a run that ended well: 0 without violations, 1 with some. -/
def successCodes : List Int := [0, 1]

/-- Whether the run ended well. -/
def isSuccess (r : RunResult) : Bool :=
  match r.status with
  | some code => successCodes.contains code
  | none => false

/-- How the run ended. -/
def ending (r : RunResult) : String :=
  match r.status with
  | some code => "exit code " ++ toString code
  | none => "a signal"

/-- What was printed by a run that ended well. -/
def report (r : RunResult) : Except Failure String :=
  if r.isSuccess then .ok r.stdout
  else
    let complaint := Text.trim r.stderr
    .error (.process ("Lint tool terminated by " ++ r.ending ++
      if complaint.isEmpty then "" else ": " ++ complaint))

end RunResult

end LintBridge
