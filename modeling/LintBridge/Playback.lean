/-
# Rehearsed surroundings

Surroundings of a session in which the answers of the lint tool are given in advance and the editor
takes a limited number of publications.

* `Playback.host`: the surroundings.
-/
import LintBridge.Session
import LintBridge.Shell.Process

namespace LintBridge

/-- The state of rehearsed surroundings. -/
structure Playback where
  /-- The files. -/
  disk : Disk
  /-- The answers that the lint tool will give; none if it is run on the disk. -/
  answers : Option (List (Except Failure RunResult))
  /-- The number of publications that the editor takes, if there is a limit. -/
  room : Option Nat
  /-- The number of publications that the editor has taken. -/
  taken : Nat

namespace Playback

/-- What the lint tool answers when no answer is left: no file was looked at. -/
def quietAnswer : RunResult := ⟨some 0, "[]", ""⟩

/-- Whether the editor takes another publication. -/
def hasRoom (w : Playback) : Bool :=
  match w.room with
  | none => true
  | some room => w.taken < room

/-- The next answer of the lint tool. -/
def run (call : Invocation) (w : Playback) : Except Failure RunResult × Playback :=
  match w.answers with
  | none =>
    let (result, disk) := Disk.spawn call w.disk
    (result, { w with disk := disk })
  | some [] => (.ok quietAnswer, w)
  | some (answer :: rest) => (answer, { w with answers := some rest })

/-- Offer a publication to the editor. -/
def publish (w : Playback) : Option Failure × Playback :=
  if w.hasRoom then (none, { w with taken := w.taken + 1 })
  else (some (.io "editor went away"), w)

/-- The surroundings. -/
def host : Host Playback where
  workingDirectory w := .ok w.disk.workingDirectory
  isFile w := w.disk.isFile
  run := run
  publish _ w := w.publish

end Playback

end LintBridge
