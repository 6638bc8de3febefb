/-
# Projects

The project of a file is found by going up from its directory: the nearest directory that holds a
lint configuration is the root of the project, and the nearest copy of the lint tool is used.

* `searchUp`: the nearest file with one of the given names, and `searchUp_congr`: no search goes
  beyond its candidates.
* `Project.resolve`: the project of a file.
-/
import LintBridge.Failure

namespace LintBridge

/-- The places where the names are looked for, the nearest directory first. -/
def candidates (start : Path) (names : List String) : List Path :=
  start.ancestors.flatMap fun dir => names.map fun name => dir.join ⟨name⟩

/-- The first candidate that is a file. -/
def searchUp (isFile : Path → Bool) (start : Path) (names : List String) : Option Path :=
  (candidates start names).find? isFile

/-- A search upwards depends on nothing but its candidates. -/
theorem searchUp_congr {isFile isFile' : Path → Bool} {start : Path} {names : List String}
    (h : ∀ p ∈ candidates start names, isFile p = isFile' p) :
    searchUp isFile start names = searchUp isFile' start names := by
  simp only [searchUp]
  generalize candidates start names = l at h
  induction l with
  | nil => rfl
  | cons p rest ih =>
    rw [List.find?_cons, List.find?_cons, h p List.mem_cons_self,
      ih fun q hq => h q (List.mem_cons_of_mem _ hq)]

/-- The nearest lint configuration. -/
def findConfig (isFile : Path → Bool) (start : Path) (names : List String) :
    Except Failure Path :=
  match searchUp isFile start names with
  | some config => .ok config
  | none => .error (.configNotFound start)

/-- Where a project keeps a copy of the lint tool, seen from its root. -/
def toolPlace (tool : String) : Path := (Path.join ⟨"node_modules"⟩ ⟨".bin"⟩).join ⟨tool⟩

/-- The nearest copy of the lint tool, or else its bare name. -/
def findTool (isFile : Path → Bool) (start : Path) (tool : String) : Path :=
  (searchUp isFile start [(toolPlace tool).text]).getD ⟨tool⟩

/-- What a file is linted with. -/
structure Project where
  /-- The lint configuration. -/
  config : Path
  /-- The directory of the lint configuration. -/
  root : Path
  /-- The lint tool. -/
  tool : Path
deriving DecidableEq, Repr, Inhabited

namespace Project

/-- The directory of a file; a bare name is in the current directory. -/
def directoryOf (file : Path) : Path :=
  match file.parent? with
  | some dir => if dir.text.isEmpty then ⟨"."⟩ else dir
  | none => ⟨"."⟩

/-- The project of a file. -/
def resolve (isFile : Path → Bool) (file : Path) (configFiles : List String) (tool : String) :
    Except Failure Project := do
  let dir := directoryOf file
  let config ← findConfig isFile dir configFiles
  return ⟨config, config.parent?.getD dir, findTool isFile dir tool⟩

end Project

end LintBridge
