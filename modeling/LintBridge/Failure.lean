/-
# Failures

Why an operation could not be carried out.

* `Failure`: the kinds of failure.
* `Failure.message`: their wording.
-/
import LintBridge.Path.Basic

namespace LintBridge

/-- Why an operation could not be carried out. -/
inductive Failure where
  /-- No directory from this one upwards has a lint configuration. -/
  | configNotFound (start : Path)
  /-- The lint tool could not be run, or did not end well. -/
  | process (reason : String)
  /-- What the lint tool printed is no report. -/
  | parse (reason : String)
  /-- The settings could not be loaded. -/
  | settings (reason : String)
  /-- Reading or writing failed. -/
  | io (reason : String)
deriving DecidableEq, Repr

namespace Failure

/-- The wording of a failure. -/
def message : Failure → String
  | configNotFound start => "No lint config found above " ++ start.text
  | process reason => "Process error: " ++ reason
  | parse reason => "Parse error: " ++ reason
  | settings reason => "Settings error: " ++ reason
  | io reason => "I/O error: " ++ reason

/-- Whether the failure only says that there is nothing to lint. -/
def isConfigNotFound : Failure → Bool
  | configNotFound _ => true
  | _ => false

end Failure

end LintBridge
