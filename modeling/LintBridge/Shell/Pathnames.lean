/-
# Patterns for paths

A field with patterns in it stands for the paths that match it, if there are any.  A pattern matches
names in one directory; a name that starts with a dot has to be asked for.

* `Shell.pathsFor`: the paths for a field.
-/
import LintBridge.Disk
import LintBridge.Shell.Pattern

namespace LintBridge.Shell

/-- The stretches of a field between separators. -/
def segmentsOf : Marked → List Marked
  | [] => [[]]
  | (c, quoted) :: rest =>
    if c = '/' then [] :: segmentsOf rest
    else
      match segmentsOf rest with
      | s :: ss => ((c, quoted) :: s) :: ss
      | [] => [[(c, quoted)]]

/-- The names in a directory that a segment matches. -/
def namesFor (d : Disk) (dir : Octets) (segment : Marked) : List Octets :=
  let pattern := Glob.ofMarked segment
  let hidden := (Glob.literal? segment).map Prod.fst = some '.'
  let names := (d.names ⟨Octets.decode (if dir.isEmpty then ['.'] else dir)⟩).toOption.map fun ns =>
    ["."] ++ [".."] ++ ns
  ((names.getD []).map Octets.ofString).filter fun n =>
    (hidden || n.head? ≠ some '.') && Glob.accepts pattern n

/-- The paths that start with `before` and go on as the segments say. -/
def pathsFrom (d : Disk) : List Marked → Octets → List Octets
  | [], _ => []
  | segment :: rest, before =>
    if (segment :: rest).all (!Glob.isPattern ·) then
      let path := before ++ ['/'].intercalate ((segment :: rest).map Glob.plainName)
      if d.stands ⟨Octets.decode path⟩ then [path] else []
    else if !Glob.isPattern segment then
      pathsFrom d rest (before ++ Glob.plainName segment ++ ['/'])
    else
      (namesFor d before segment).flatMap fun n =>
        if rest.isEmpty then [before ++ n] else pathsFrom d rest (before ++ n ++ ['/'])

/-- The paths for a field in their order, or the field itself. -/
def pathsFor (d : Disk) (field : Marked) : List Octets :=
  let segments := segmentsOf field
  if segments.any Glob.isPattern then
    match (pathsFrom d segments []).mergeSort (fun a b => !Octets.precedes b a) with
    | [] => [field.text]
    | paths => paths
  else [field.text]

end LintBridge.Shell
