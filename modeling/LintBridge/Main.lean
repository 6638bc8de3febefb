/-
# The program

Requests work on a copy of the files they look at, which is made here; the lint tool is a script
that runs on this copy.  What a request prints is printed here, and the one file that a request
leaves behind, a new settings file, is written here.
-/
import LintBridge.CommandLine.Places
import LintBridge.CommandLine.Run

namespace LintBridge

/-- Copy those files onto the disk that are there. -/
def copyFiles (d : Disk) (ps : List Path) : IO Disk :=
  ps.foldlM (fun d p => do
    match ← (IO.FS.readBinFile p.text).toBaseIO with
    | .ok bytes => return d.withFile p (bytes.toList.map fun b => Char.ofNat b.toNat) true
    | .error _ => return d) d

/-- Print what was printed and said. -/
def report (stdout : String) (log : List Message) : IO Unit := do
  log.forM fun m => IO.eprintln m.line
  IO.print stdout
  (← IO.getStdout).flush

/-- Serve an editor, reacting to each line before the next one is read. -/
partial def serveLines (here : Path) (s : Service Disk) : IO (Service Disk) := do
  report s.stdout s.log
  let s := { s with stdout := "", log := [] }
  let line ← (← IO.getStdin).getLine
  if line.isEmpty then return s
  let disk ← copyFiles s.world (s.places here line)
  serveLines here (Service.react Disk.machine { s with world := disk } line)

/-- Put a settings file in the place of what is there; what is there is in the way unless `force` is
true. -/
def writeSettings (force : Bool) : IO Unit := do
  if force then discard (IO.FS.removeFile defaultFile.text).toBaseIO
  (← IO.FS.Handle.mk defaultFile.text .writeNew).putStr defaultDocument

/-- What a request leads to on a disk with the files it looks at. -/
def performOn (line : CommandLine) (here : Path) (d : Disk) : IO (CommandResult Disk) := do
  let d ← copyFiles d (line.places here)
  let loaded := Disk.machine.loadSettings line.config d
  let settings := loaded.result.toOption.getD {}
  match line.request, loaded.result with
  | .serve, .ok _ => return (← serveLines here (.start settings loaded.log d)).finish
  | .init force, _ => do
    let r := Disk.machine.init force d
    if r.code = 0 then writeSettings force
    return r
  | request, _ => do
    let d ← copyFiles d (request.operands.flatMap (settings.places here))
    let input ← if request.readsInput then (← IO.getStdin).readToEnd else pure ""
    return Disk.machine.perform line input d

end LintBridge

open LintBridge in
/-- Work off the arguments of the command line. -/
def main (arguments : List String) : IO UInt32 := do
  let here : Path := ⟨(← IO.currentDir).toString⟩
  let d : Disk :=
    match Disk.bare.makeDirectories here with
    | .ok (d, current) => { d with current := current }
    | .error _ => Disk.bare
  let r ← match CommandLine.parse arguments with
    | .ok line => performOn line here d
    | .error _ => pure (Disk.machine.answer arguments "" d)
  report r.stdout r.log
  return UInt32.ofNat r.code
