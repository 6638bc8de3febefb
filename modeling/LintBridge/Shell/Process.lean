/-
# Running the lint tool as a process

* `Disk.bare`: a disk with the programs that need no file.
* `Disk.spawn`: run the lint tool on a disk.
-/
import LintBridge.Shell.Run
import LintBridge.Tool

namespace LintBridge

namespace Shell

/-- The directories in which a program without a separator in its name is looked for. -/
def searchPath : List String := ["/usr/bin", "/bin"]

/-- The program that a name in one of the directories stands for.  A directory without such a file
does not matter, and one with a file that must not be run only if there is no other. -/
def search (d : Disk) (name : String) (as : List Octets) (refused : DiskError) :
    List String → Except DiskError (String × List Octets)
  | [] => .error refused
  | dir :: rest =>
    match load d maxInterpreters (Path.join ⟨dir⟩ ⟨name⟩) as with
    | .ok r => .ok r
    | .error .notFound => search d name as refused rest
    | .error .notDirectory => search d name as refused rest
    | .error .accessDenied => search d name as .accessDenied rest
    | .error e => .error e

/-- The program that a call runs, with its arguments. -/
def programOf (d : Disk) (program : Path) (as : List Octets) :
    Except DiskError (String × List Octets) :=
  if program.text.isEmpty then .error .notFound
  else if program.text.toList.contains '/' then load d maxInterpreters program as
  else search d program.text as .notFound searchPath

end Shell

namespace Disk

/-- A disk with nothing but the programs in the search path and a directory for scratch work. -/
def bare : Disk where
  nodes := [(["tmp"], .directory), (["usr"], .directory), (["bin", "usr"], .directory),
    (["bin"], .link "usr/bin")] ++
      Shell.programNames.map fun name => ([name, "bin", "usr"], .file [] true)
  current := []

/-- Run a call on the disk whose current directory is that of the call. -/
def spawnHere (d : Disk) (i : Invocation) : Except DiskError (RunResult × Disk) := do
  let as := i.args.map Octets.ofString
  let (program, as) ← Shell.programOf d i.program as
  let (e, s) := Shell.execute Shell.maxDepth program as (.start d (Octets.ofString program) as)
  let status :=
    match e with
    | .killed _ => none
    | .exited n => some (n : Int)
  .ok (⟨status, Octets.decode (s.written 0), Octets.decode (s.written 1)⟩, s.disk)

/-- Run a call on the disk. -/
def spawn (i : Invocation) (d : Disk) : Except Failure RunResult × Disk :=
  let refused (reason : String) : Except Failure RunResult :=
    .error (.process ("Failed to run " ++ i.program.text ++ ": " ++ reason))
  let hasNul : Bool := (i.program.text :: i.directory.text :: i.args).any (·.toList.contains '\x00')
  if hasNul then (refused "nul byte found in provided data", d)
  else
    let ran := do
      match ← d.stat i.directory with
      | (l, .directory) => spawnHere { d with current := l } i
      | _ => .error .notDirectory
    match ran with
    | .ok (r, after) => (.ok r, { after with current := d.current })
    | .error e => (refused e.message, d)

end Disk

end LintBridge
