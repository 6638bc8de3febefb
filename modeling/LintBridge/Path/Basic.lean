/-
# Paths

A path is kept as it was spelled, because its spelling is what gets printed, but it is *read* as a
list of components.  Repeated separators, a trailing separator and every `.` other than a leading
one of a relative path leave no component behind, so `a//b`, `a/./b` and `a/b/` are three spellings
of one component list.

* `Path.components`: the component list of a path.
* `Path.join`, `Path.parent?`, `Path.ancestors`: moving between directories.
* `Path.fileName?`, `Path.extension?`: the last component and what follows its last dot.
-/
import LintBridge.Text.Split

namespace LintBridge

/-- One step of a path, as it is read from left to right. -/
inductive Component where
  /-- The leading `/` of an absolute path. -/
  | root
  /-- A leading `.` of a relative path. -/
  | here
  /-- A `..`. -/
  | up
  /-- A plain name. -/
  | name (text : String)
deriving DecidableEq, Repr, Inhabited

namespace Component

/-- How a component is spelled. -/
def text : Component → String
  | root => "/"
  | here => "."
  | up => ".."
  | name s => s

/-- The component a stretch of text between two separators stands for: nothing between two
separators and a `.` stand for none. -/
def ofSegment? : List Char → Option Component
  | [] => none
  | ['.'] => none
  | ['.', '.'] => some up
  | s => some (name (String.ofList s))

end Component

/-- A path, as it was spelled. -/
structure Path where
  /-- The spelling. -/
  text : String
deriving DecidableEq, Repr, Inhabited

namespace Path

/-- The stretches of text between separators, empty ones included. -/
abbrev segments : List Char → List (List Char) := Text.split '/'

/-- Whether the path starts at the root. -/
def isAbsolute (p : Path) : Bool :=
  match p.text.toList with
  | '/' :: _ => true
  | _ => false

/-- Where the reading of a path starts, and the segments after that. -/
structure Layout where
  /-- The root, a leading `.`, or nothing. -/
  lead : Option Component
  /-- The segments that follow. -/
  body : List (List Char)

/-- The start of a path and the segments that follow it. -/
def layout (p : Path) : Layout :=
  match p.text.toList with
  | '/' :: cs => ⟨some .root, segments cs⟩
  | cs =>
    match segments cs with
    | ['.'] :: body => ⟨some .here, body⟩
    | body => ⟨none, body⟩

/-- The components of a path, from left to right. -/
def components (p : Path) : List Component :=
  p.layout.lead.toList ++ p.layout.body.filterMap Component.ofSegment?

/-- The plainest spelling of a component list. -/
def ofComponents : List Component → Path
  | .root :: cs => ⟨"/" ++ "/".intercalate (cs.map Component.text)⟩
  | cs => ⟨"/".intercalate (cs.map Component.text)⟩

/-- The path `b` as seen from the directory `a`. -/
def join (a b : Path) : Path :=
  if b.isAbsolute then b
  else if a.text.isEmpty || a.text.toList.getLast? = some '/' then ⟨a.text ++ b.text⟩
  else ⟨a.text ++ "/" ++ b.text⟩

/-- The segments without those at the end that stand for no component. -/
def dropSilent (body : List (List Char)) : List (List Char) :=
  (body.reverse.dropWhile fun s => (Component.ofSegment? s).isNone).reverse

/-- The spelling of a start and the segments that follow it. -/
def Layout.text : Layout → String
  | ⟨some .root, body⟩ => String.ofList ('/' :: Text.join '/' body)
  | ⟨some _, []⟩ => "."
  | ⟨some _, body⟩ => String.ofList ('.' :: '/' :: Text.join '/' body)
  | ⟨none, body⟩ => String.ofList (Text.join '/' body)

/-- The path without its last component; nothing for the root and the empty path. -/
def parent? (p : Path) : Option Path :=
  match p.layout with
  | ⟨lead, body⟩ =>
    match dropSilent body with
    | [] =>
      match lead with
      | some .here => some ⟨""⟩
      | _ => none
    | s :: ss => some ⟨Layout.text ⟨lead, dropSilent (s :: ss).dropLast⟩⟩

/-- The parents of a path from the nearest on, at most `n` of them. -/
def parents : Nat → Path → List Path
  | 0, _ => []
  | n + 1, p =>
    match p.parent? with
    | none => []
    | some q => q :: parents n q

/-- The path itself and the directories above it, the nearest first. -/
def ancestors (p : Path) : List Path :=
  p :: parents p.components.length p

/-- The last component, when it is a plain name. -/
def fileName? (p : Path) : Option String :=
  match p.components.getLast? with
  | some (.name s) => some s
  | _ => none

/-- What follows the last dot of a file name; a name whose only dot is its first character has no
extension. -/
def extensionOf? (name : List Char) : Option (List Char) :=
  match name.reverse.dropWhile (· ≠ '.') with
  | _ :: _ :: _ => some (name.reverse.takeWhile (· ≠ '.')).reverse
  | _ => none

/-- The extension of the file name, without the dot. -/
def extension? (p : Path) : Option String :=
  p.fileName?.bind fun name => (extensionOf? name.toList).map String.ofList

end Path

end LintBridge
