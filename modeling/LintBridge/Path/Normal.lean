/-
# Normal paths

A path is normalized by its spelling alone, without a look at the file system: `.` disappears and
`..` takes back the component before it.  A `..` that finds nothing to take back stays, and the next
`..` takes it back like a name.

* `Path.normalize`: a path, seen from a base directory, in normal form.
* `Path.absolute`: the absolute normal form of a path, which the empty path does not have.
-/
import LintBridge.Path.Basic

namespace LintBridge

namespace Path

/-- Read one more component; the stack holds the components kept so far, the last one on top. -/
def collapseStep (stack : List Component) : Component → List Component
  | .here => stack
  | .up =>
    match stack with
    | [] => [.up]
    | .root :: _ => .up :: stack
    | _ :: below => below
  | c => c :: stack

/-- The components that are left when `.` and `..` have been worked off. -/
def collapse (cs : List Component) : List Component := (cs.foldl collapseStep []).reverse

/-- The normal form of `p` as seen from the directory `base`. -/
def normalize (base p : Path) : Path := ofComponents (collapse (base.join p).components)

/-- The root. -/
def rootDirectory : Path := ⟨"/"⟩

/-- Why the empty path has no absolute form. -/
def emptyReason : String := "cannot make an empty path absolute"

/-- The absolute normal form of `p`, or the reason why it has none.  The current directory `cwd`,
which may be unknown for some reason, only matters to a relative path. -/
def absolute (cwd : Except String Path) (p : Path) : Except String Path :=
  if p.text.isEmpty then .error emptyReason
  else if p.isAbsolute then .ok (normalize rootDirectory p)
  else cwd.map fun dir => normalize dir p

end Path

end LintBridge
