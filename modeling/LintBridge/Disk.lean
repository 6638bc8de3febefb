/-
# Disks

Files, directories and symbolic links, and the way a path leads to one of them.

* `Disk`: what stands at every location.
* `Disk.resolve`: where a path leads.
* `Disk.isFile`, `Disk.read`, `Disk.readText`, `Disk.write`, `Disk.create`, `Disk.remove`: the
  operations on paths.
* `DiskError`: why an operation is not possible.
-/
import LintBridge.Path.Basic
import LintBridge.Text.Utf8

namespace LintBridge

/-- Why an operation on a disk is not possible. -/
inductive DiskError where
  | notFound
  | notExecutable
  | accessDenied
  | exists
  | notDirectory
  | isDirectory
  | nameTooLong
  | tooManyLinks
  /-- The path has a character that no path can have. -/
  | nulInPath
  /-- The content is no text. -/
  | notText
deriving DecidableEq, Repr

namespace DiskError

/-- The wording of an error. -/
def reason : DiskError → String
  | notFound => "No such file or directory"
  | notExecutable => "Exec format error"
  | accessDenied => "Permission denied"
  | «exists» => "File exists"
  | notDirectory => "Not a directory"
  | isDirectory => "Is a directory"
  | nameTooLong => "File name too long"
  | tooManyLinks => "Too many levels of symbolic links"
  | nulInPath => "file name contained an unexpected NUL byte"
  | notText => "stream did not contain valid UTF-8"

/-- The number of an error, if the system has one for it. -/
def number? : DiskError → Option Nat
  | notFound => some 2
  | notExecutable => some 8
  | accessDenied => some 13
  | «exists» => some 17
  | notDirectory => some 20
  | isDirectory => some 21
  | nameTooLong => some 36
  | tooManyLinks => some 40
  | nulInPath => none
  | notText => none

/-- The wording of an error with its number. -/
def message (e : DiskError) : String :=
  match e.number? with
  | some n => e.reason ++ " (os error " ++ toString n ++ ")"
  | none => e.reason

end DiskError

/-- A place in the directory tree: the names on the way from it up to the root, which is `[]`. -/
abbrev Location := List String

/-- The absolute path of a location. -/
def Location.path (l : Location) : Path := ⟨"/" ++ "/".intercalate l.reverse⟩

/-- What stands at a location. -/
inductive Node where
  | directory
  /-- A file with its bytes; it may be a program. -/
  | file (content : Octets) (executable : Bool)
  /-- A link to the given path. -/
  | link (target : String)
deriving DecidableEq, Repr, Inhabited

/-- A directory tree and the directory that relative paths start from. -/
structure Disk where
  /-- What stands where, except at the root. -/
  nodes : List (Location × Node)
  /-- The current directory. -/
  current : Location
deriving DecidableEq, Inhabited

namespace Disk

/-- What stands at a location; the root is always a directory. -/
def node? (d : Disk) : Location → Option Node
  | [] => some .directory
  | l => d.nodes.lookup l

/-- The disk with something put at a location. -/
def put (d : Disk) (l : Location) (n : Node) : Disk :=
  { d with nodes := (l, n) :: d.nodes.filter fun e => e.1 != l }

/-- The disk without what stands at a location. -/
def erase (d : Disk) (l : Location) : Disk :=
  { d with nodes := d.nodes.filter fun e => e.1 != l }

theorem lookup_filter_ne (nodes : List (Location × Node)) (l k : Location) :
    (nodes.filter fun e => e.1 != l).lookup k = if k = l then none else nodes.lookup k := by
  induction nodes with
  | nil => simp
  | cons e rest ih =>
    obtain ⟨m, n⟩ := e
    by_cases hm : m = l
    · rw [List.filter_cons_of_neg (by simp [hm]), ih]
      by_cases hk : k = l
      · simp [hk]
      · have : (k == m) = false := by simp [hm, hk]
        simp [List.lookup_cons, this]
    · rw [List.filter_cons_of_pos (by simp [hm]), List.lookup_cons, List.lookup_cons, ih]
      by_cases hk : k = m
      · subst hk
        simp [hm]
      · have : (k == m) = false := by simp [hk]
        simp [this]

theorem node?_put (d : Disk) (l k : Location) (n : Node) (hl : l ≠ []) :
    (d.put l n).node? k = if k = l then some n else d.node? k := by
  cases k with
  | nil => simp [node?, hl.symm]
  | cons x xs =>
    simp only [node?, put, List.lookup_cons, lookup_filter_ne]
    by_cases h : x :: xs = l
    · simp [h]
    · have : (x :: xs == l) = false := by simpa using h
      simp [h, this]

theorem node?_erase (d : Disk) (l k : Location) (hl : l ≠ []) :
    (d.erase l).node? k = if k = l then none else d.node? k := by
  cases k with
  | nil => simp [node?, hl.symm]
  | cons x xs => simp only [node?, erase, lookup_filter_ne]

/-! ## Following a path -/

/-- Where a path leads. -/
inductive Place where
  /-- To something that stands at the location. -/
  | found (l : Location)
  /-- To a location in a directory at which nothing stands. -/
  | missing (l : Location)
deriving DecidableEq, Repr

/-- The greatest number of bytes in a name. -/
def maxName : Nat := 255

/-- The greatest number of bytes in a path. -/
def maxPath : Nat := 4095

/-- The greatest number of links on the way. -/
def maxLinks : Nat := 40

/-- How the way goes on when a link in the directory `here` leads to `target`. -/
def enter (here : Location) (target : String) (rest : List (List Char)) :
    Location × List (List Char) :=
  (if Path.isAbsolute ⟨target⟩ then [] else here, Path.segments target.toList ++ rest)

/-- Follow segments from a location, which has to be a directory while there are any.  A link at the
very end is not followed if `keepLast` is true; `follow` goes on behind every other link. -/
def walkOn (d : Disk) (keepLast : Bool)
    (follow : Location → List (List Char) → Except DiskError Place) :
    Location → List (List Char) → Except DiskError Place
  | here, [] => .ok (.found here)
  | here, s :: rest =>
    match d.node? here with
    | some .directory =>
      match Component.ofSegment? s with
      | none => walkOn d keepLast follow here rest
      | some .up => walkOn d keepLast follow here.tail rest
      | some c =>
        if maxName < (Octets.ofString c.text).length then .error .nameTooLong
        else
          match d.node? (c.text :: here) with
          | none => if rest.isEmpty then .ok (.missing (c.text :: here)) else .error .notFound
          | some (.link target) =>
            if keepLast && rest.isEmpty then .ok (.found (c.text :: here))
            else
              let (there, way) := enter here target rest
              follow there way
          | some _ => walkOn d keepLast follow (c.text :: here) rest
    | _ => .error .notDirectory

/-- Follow segments from a location over at most the given number of links. -/
def walk (d : Disk) (keepLast : Bool) :
    Nat → Location → List (List Char) → Except DiskError Place
  | 0 => walkOn d keepLast fun _ _ => .error .tooManyLinks
  | links + 1 => walkOn d keepLast (walk d keepLast links)

/-- Where a path leads.  A link at its very end is not followed if `keepLast` is true. -/
def resolve (d : Disk) (keepLast : Bool) (p : Path) : Except DiskError Place :=
  if p.text.isEmpty then .error .notFound
  else if p.text.toList.contains '\x00' then .error .nulInPath
  else if maxPath < (Octets.ofString p.text).length then .error .nameTooLong
  else
    let (start, way) := enter d.current p.text []
    d.walk keepLast maxLinks start way

/-! ## Operations -/

/-- What a path leads to, with its location. -/
def stat (d : Disk) (p : Path) : Except DiskError (Location × Node) := do
  match ← d.resolve false p with
  | .missing _ => .error .notFound
  | .found l =>
    match d.node? l with
    | some n => .ok (l, n)
    | none => .error .notFound

/-- Whether a path leads to a file. -/
def isFile (d : Disk) (p : Path) : Bool :=
  match d.stat p with
  | .ok (_, .file _ _) => true
  | _ => false

/-- The bytes of a file. -/
def read (d : Disk) (p : Path) : Except DiskError Octets := do
  match ← d.stat p with
  | (_, .file content _) => .ok content
  | _ => .error .isDirectory

/-- The text of a file. -/
def readText (d : Disk) (p : Path) : Except DiskError String := do
  match Octets.decode? (← d.read p) with
  | some text => .ok text
  | none => .error .notText

/-- The disk after the content of a file has been replaced, or a file with this content made. -/
def write (d : Disk) (p : Path) (content : Octets) : Except DiskError Disk := do
  match ← d.resolve false p with
  | .missing l => .ok (d.put l (.file content false))
  | .found l =>
    match d.node? l with
    | some (.file _ executable) => .ok (d.put l (.file content executable))
    | _ => .error .isDirectory

/-- The disk with a new file.  Nothing may stand there, not even a link that leads nowhere. -/
def create (d : Disk) (p : Path) (content : Octets) : Except DiskError Disk := do
  match ← d.resolve true p with
  | .missing l => .ok (d.put l (.file content false))
  | .found _ => .error .exists

/-- The disk without a file or a link; what a link leads to stays. -/
def remove (d : Disk) (p : Path) : Except DiskError Disk := do
  match ← d.resolve true p with
  | .missing _ => .error .notFound
  | .found l =>
    match d.node? l with
    | some .directory => .error .isDirectory
    | _ => .ok (d.erase l)

/-- The names of what stands in a directory. -/
def names (d : Disk) (p : Path) : Except DiskError (List String) := do
  match ← d.stat p with
  | (l, .directory) =>
    .ok (d.nodes.filterMap fun e =>
      match e.1 with
      | name :: above => if above = l then some name else none
      | [] => none)
  | _ => .error .notDirectory

/-- Whether something stands where a path leads, perhaps a link that leads nowhere. -/
def stands (d : Disk) (p : Path) : Bool :=
  match d.resolve true p with
  | .ok (.found _) => true
  | _ => false

/-- The disk without what stands at a location and below it. -/
def eraseAll (d : Disk) (l : Location) : Disk :=
  { d with nodes := d.nodes.filter fun e => !l.isSuffixOf e.1 }

/-- The path of the current directory. -/
def workingDirectory (d : Disk) : Path := d.current.path

/-- The disk with the directories of a path made as far as they are missing, and the location of the
last of them. -/
def makeDirectories (d : Disk) (p : Path) : Except DiskError (Disk × Location) :=
  let start : Location := if p.isAbsolute then [] else d.current
  p.components.foldlM (fun (d, here) c => do
    match ← { d with current := here }.resolve false ⟨c.text⟩ with
    | .missing l => .ok (d.put l .directory, l)
    | .found l =>
      match d.node? l with
      | some .directory => .ok (d, l)
      | _ => .error .exists) (d, start)

/-- The disk with a file at a path, whose directories are made as far as they are missing.  A path
at which no file can be leaves the disk as it is. -/
def withFile (d : Disk) (p : Path) (content : Octets) (executable : Bool) : Disk :=
  let made := do
    let (d, _) ← d.makeDirectories (p.parent?.getD ⟨"/"⟩)
    match ← d.resolve false p with
    | .missing l => .ok (d.put l (.file content executable))
    | .found _ => .error .exists
  match made with
  | .ok d => d
  | .error (_ : DiskError) => d

end Disk

end LintBridge
