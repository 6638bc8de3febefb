/-
# Bringing a display up to date

A run of the lint tool gives the diagnostics of every file it looked at.  The difference to what the
editor shows is a list of changes: first the new list of every file of the run, unless the list is
empty and the file is clean already, then an empty list for every other file that is still dirty.
Both parts are in path order.

* `Display.revise`: the changes, and the display after them.
-/
import LintBridge.Display

namespace LintBridge

/-- One change of a display. -/
structure Change where
  /-- The file. -/
  path : Path
  /-- The list that is shown from now on. -/
  diagnostics : List Diagnostic
  /-- Whether the file is only cleared because it is no longer reported. -/
  clear : Bool
deriving DecidableEq, Repr, Inhabited

/-- The file of a change with its list. -/
def Change.content (c : Change) : Path × List Diagnostic := (c.path, c.diagnostics)

/-- The changes that lead from one display to the next. -/
structure Revision where
  /-- The changes, in the order in which they are sent. -/
  changes : List Change
  /-- The display after all of them. -/
  display : Display

namespace Revision

/-- The number of files with a new list. -/
def updated (r : Revision) : Nat := r.changes.countP fun c => !c.clear

/-- The number of files that are cleared. -/
def cleared (r : Revision) : Nat := r.changes.countP Change.clear

end Revision

namespace Display

/-- The changes for the files of a run. -/
def updates (d : Display) (next : DiagnosticSet) : List Change :=
  (next.toList.filter fun e => d.needsPublish e.1 e.2).map fun e => ⟨e.1, e.2, false⟩

/-- The changes for the dirty files that are missing in a run. -/
def clears (d : Display) (next : DiagnosticSet) : List Change :=
  (d.dirtyFiles.filter fun p => !next.contains p).map fun p => ⟨p, [], true⟩

/-- The display after a list of changes. -/
def apply (d : Display) (changes : List Change) : Display :=
  d.recordAll (changes.map Change.content)

/-- The files of the display that are missing in a run. -/
def missing (d : Display) (next : DiagnosticSet) : List Path :=
  d.files.keys.filter fun p => !next.contains p

/-- The display that shows a run: its files with their lists, and all other files clean. -/
def showing (d : Display) (next : DiagnosticSet) : Display :=
  (empty.recordAll next.toList).recordAll ((d.missing next).map fun p => (p, []))

/-- The way from a display to the one that shows a run. -/
def revise (d : Display) (next : DiagnosticSet) : Revision :=
  ⟨d.updates next ++ d.clears next, d.showing next⟩

end Display

end LintBridge
