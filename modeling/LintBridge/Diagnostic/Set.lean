/-
# Diagnostic sets

The diagnostics of one run of the lint tool, file by file.  Files are in path order; the
diagnostics of one file keep the order in which they were added.

* `DiagnosticSet.touch`, `DiagnosticSet.push`: enter a file, add a diagnostic to it.
* `DiagnosticSet.find?`: the diagnostics of a file, under any spelling of its path.
-/
import LintBridge.Diagnostic.Basic
import LintBridge.PathMap

namespace LintBridge

/-- The diagnostics of a run, file by file. -/
structure DiagnosticSet where
  /-- The list of every file. -/
  files : PathMap (List Diagnostic)
deriving DecidableEq, Inhabited

namespace DiagnosticSet

/-- The set without files. -/
def empty : DiagnosticSet := ⟨.empty⟩

/-- Enter a file, which may stay without diagnostics. -/
def touch (s : DiagnosticSet) (p : Path) : DiagnosticSet := ⟨s.files.upsert p fun l => l.getD []⟩

/-- Add a diagnostic after the others of its file. -/
def push (s : DiagnosticSet) (p : Path) (d : Diagnostic) : DiagnosticSet :=
  ⟨s.files.upsert p fun l => l.getD [] ++ [d]⟩

/-- The diagnostics of a file, if the set has it. -/
def find? (s : DiagnosticSet) (p : Path) : Option (List Diagnostic) := s.files.find? p

/-- Whether the set has a file. -/
def contains (s : DiagnosticSet) (p : Path) : Bool := s.files.contains p

/-- The number of files. -/
def size (s : DiagnosticSet) : Nat := s.files.size

/-- The number of diagnostics in all files together. -/
def count (s : DiagnosticSet) : Nat := s.files.values.flatten.length

/-- The files with their lists, in path order. -/
def toList (s : DiagnosticSet) : List (Path × List Diagnostic) := s.files.entries

/-- The JSON form: an object with a member for each file. -/
def toJson (s : DiagnosticSet) : Json :=
  .object (s.toList.map fun e => (e.1.text, Diagnostic.listToJson e.2))

/-- Read the value of the member named `k`: its list replaces an earlier one of the same file. -/
def readMember (k : String) (s : DiagnosticSet) : Json.Reader DiagnosticSet := fun text => do
  let text ← Json.readColon text
  let (l, rest) ← Json.readList Diagnostic.read text
  .ok (⟨s.files.insert ⟨k⟩ l⟩, rest)

/-- Read a set. -/
def read : Json.Reader DiagnosticSet := fun text =>
  match Json.skipSpaces text with
  | '{' :: rest => Json.objectBody readMember empty rest
  | text => .error (Json.wrongValue "a map" text)

/-- Sets with the same files and lists are equal. -/
theorem eq_of_toList {s s' : DiagnosticSet} (h : s.toList = s'.toList) : s = s' := by
  obtain ⟨⟨entries, _⟩⟩ := s
  obtain ⟨⟨entries', _⟩⟩ := s'
  obtain rfl : entries = entries' := h
  rfl

theorem find?_touch (s : DiagnosticSet) (p q : Path) :
    (s.touch p).find? q = if p.Same q then some ((s.find? p).getD []) else s.find? q :=
  PathMap.find?_upsert ..

theorem find?_push (s : DiagnosticSet) (p q : Path) (d : Diagnostic) :
    (s.push p d).find? q = if p.Same q then some ((s.find? p).getD [] ++ [d]) else s.find? q :=
  PathMap.find?_upsert ..

end DiagnosticSet

end LintBridge
