/-
# What passes between a session and its surroundings

A session runs the lint tool and offers publications to the editor.  To see what it does from the
outside, its surroundings keep a log of this.

* `Contact`: one entry of the log.
* `Host.watched`: surroundings that keep a log, and `Session.perform_watched`: they are like those
  that keep none.
* `History.after`: a session and its log after any calls of its operations, between which the
  surroundings may have changed at will.
-/
import LintBridge.Proofs.Display.Replay
import LintBridge.Session

namespace LintBridge

/-- What passes between a session and its surroundings. -/
inductive Contact where
  /-- The lint tool was run, and gave an answer. -/
  | ran (call : Invocation) (answer : Except Failure RunResult)
  /-- The editor took a publication. -/
  | took (p : Publication)
  /-- The editor refused a publication. -/
  | refused (p : Publication) (e : Failure)
deriving DecidableEq

namespace Contact

/-- The call of the lint tool. -/
def call? : Contact → Option Invocation
  | ran call _ => some call
  | _ => none

/-- The publication, if the editor took it. -/
def taken? : Contact → Option Publication
  | took p => some p
  | _ => none

/-- The publication, if the editor refused it, with the reason. -/
def refusal? : Contact → Option (Publication × Failure)
  | refused p e => some (p, e)
  | _ => none

end Contact

/-- The calls of the lint tool in a log. -/
def calls (log : List Contact) : List Invocation := log.filterMap Contact.call?

/-- The publications in a log that the editor took. -/
def taken (log : List Contact) : List Publication := log.filterMap Contact.taken?

/-- The publications in a log that the editor refused. -/
def refusals (log : List Contact) : List (Publication × Failure) := log.filterMap Contact.refusal?

section Entries

variable {call : Invocation} {answer : Except Failure RunResult} {p : Publication} {e : Failure}
  {log : List Contact}

@[simp] lemma calls_nil : calls [] = [] := rfl

@[simp] lemma calls_ran : calls (.ran call answer :: log) = call :: calls log := rfl

@[simp] lemma calls_took : calls (.took p :: log) = calls log := rfl

@[simp] lemma calls_refused : calls (.refused p e :: log) = calls log := rfl

@[simp] lemma taken_nil : taken [] = [] := rfl

@[simp] lemma taken_ran : taken (.ran call answer :: log) = taken log := rfl

@[simp] lemma taken_took : taken (.took p :: log) = p :: taken log := rfl

@[simp] lemma taken_refused : taken (.refused p e :: log) = taken log := rfl

@[simp] lemma refusals_nil : refusals [] = [] := rfl

@[simp] lemma refusals_ran : refusals (.ran call answer :: log) = refusals log := rfl

@[simp] lemma refusals_took : refusals (.took p :: log) = refusals log := rfl

@[simp] lemma refusals_refused : refusals (.refused p e :: log) = (p, e) :: refusals log := rfl

end Entries

@[simp] lemma calls_append (log log' : List Contact) :
    calls (log ++ log') = calls log ++ calls log' :=
  List.filterMap_append ..

@[simp] lemma taken_append (log log' : List Contact) :
    taken (log ++ log') = taken log ++ taken log' :=
  List.filterMap_append ..

@[simp] lemma refusals_append (log log' : List Contact) :
    refusals (log ++ log') = refusals log ++ refusals log' :=
  List.filterMap_append ..

/-- The file of a publication with its list. -/
def Publication.content (p : Publication) : Path × List Diagnostic := (p.path, p.diagnostics)

/-! ## Watched surroundings -/

/-- Surroundings with a log. -/
structure Watched (σ : Type) where
  /-- The surroundings. -/
  world : σ
  /-- What has passed between them and a session. -/
  log : List Contact

/-- Surroundings that answer as before, and write down what they are asked and what they answer. -/
def Host.watched {σ : Type} (host : Host σ) : Host (Watched σ) where
  workingDirectory w := host.workingDirectory w.world
  isFile w := host.isFile w.world
  run call w :=
    let (answer, world) := host.run call w.world
    (answer, ⟨world, w.log ++ [.ran call answer]⟩)
  publish p w :=
    match host.publish p w.world with
    | (none, world) => (none, ⟨world, w.log ++ [.took p]⟩)
    | (some e, world) => (some e, ⟨world, w.log ++ [.refused p e]⟩)

/-- Surroundings that are fixed in advance, to try the laws about sessions in. -/
structure Rehearsal where
  /-- The answers of the lint tool, in order.  When none is left, it reports nothing. -/
  answers : List RunResult
  /-- The number of publications that the editor takes before it goes away. -/
  room : Nat

/-- The surroundings of a rehearsal: the project is the current directory. -/
def Rehearsal.host : Host Rehearsal where
  workingDirectory _ := .ok ⟨"/p"⟩
  isFile _ p := p.text = "/p/.eslintrc"
  run _ w :=
    match w.answers with
    | [] => (.ok ⟨some 0, "[]", ""⟩, w)
    | answer :: rest => (.ok answer, { w with answers := rest })
  publish _ w :=
    match w.room with
    | 0 => (some (.io "the editor went away"), w)
    | n + 1 => (none, { w with room := n })

/-- An answer of the lint tool with a diagnostic in each of two files. -/
def Rehearsal.complaints : RunResult where
  status := some 1
  stdout := "[\x7b\"filePath\":\"a.js\",\"messages\":[\x7b\"message\":\"odd\"\x7d]\x7d," ++
    "\x7b\"filePath\":\"b.js\",\"messages\":[\x7b\"message\":\"odd\",\"line\":3\x7d]\x7d]"
  stderr := ""

/-- An answer of the lint tool that only has a file without diagnostics. -/
def Rehearsal.relief : RunResult where
  status := some 0
  stdout := "[\x7b\"filePath\":\"c.js\",\"messages\":[]\x7d]"
  stderr := ""

/-- What a session can be asked to do. -/
inductive Operation where
  /-- React to an event. -/
  | handle (event : Event)
  /-- Lint a file. -/
  | lintFile (p : Path)
  /-- Lint a path, and perhaps fix it. -/
  | lintProject (p : Path) (autofix : Bool)
  /-- Fix the file that was linted last. -/
  | fix

variable {σ : Type}

namespace Session

/-- Do what is asked. -/
def perform (host : Host σ) (s : Session) : Operation → σ → Step σ
  | .handle event, w => s.handle host event w
  | .lintFile p, w => s.lintFile host p w
  | .lintProject p autofix, w => s.lintProject host p autofix w
  | .fix, w => s.fix host w

end Session

/-- One call of an operation. -/
structure Call (σ : Type) where
  /-- What is asked. -/
  operation : Operation
  /-- The surroundings at that moment. -/
  world : σ

/-- A session with the log of its surroundings. -/
structure History where
  /-- The session. -/
  session : Session
  /-- The log. -/
  log : List Contact

namespace History

/-- The history after one more call. -/
def next (host : Host σ) (h : History) (c : Call σ) : History :=
  let step := h.session.perform host.watched c.operation ⟨c.world, h.log⟩
  ⟨step.session, step.world.log⟩

/-- The history of a new session after some calls.  Every call finds its own surroundings, so they
may have changed in any way since the call before. -/
def after (host : Host σ) (settings : Settings) (calls : List (Call σ)) : History :=
  calls.foldl (next host) ⟨.start settings, []⟩

/-- The lists that the editor has taken, with their files. -/
def lists (h : History) : List (Path × List Diagnostic) := (taken h.log).map Publication.content

end History

/-! ## Watching changes nothing -/

/-- A step without the log. -/
def Step.forget (step : Step (Watched σ)) : Step σ :=
  ⟨step.result, step.session, step.world.world, step.runs, step.sent, step.notes⟩

/-- A run of the lint tool without the log. -/
def Attempt.forget (a : Attempt (Watched σ)) : Attempt σ :=
  ⟨a.result, a.world.world, a.runs, a.notes⟩

/-- A delivery without the log. -/
def Delivery.forget (d : Delivery (Watched σ)) : Delivery σ :=
  ⟨d.refusal, d.delivered, d.world.world⟩

namespace Session

variable (host : Host σ) (s : Session) (w : Watched σ)

lemma attempt_watched (target : Path) (autofix : Bool) :
    (s.attempt host.watched target autofix w).forget = s.attempt host target autofix w.world := by
  rw [attempt, attempt]
  have hfile : host.watched.isFile w = host.isFile w.world := rfl
  rw [hfile]
  cases Project.resolve (host.isFile w.world) target s.settings.configFiles s.settings.tool <;> rfl

lemma deliver_watched (changes : List Change) :
    (s.deliver host.watched changes w).forget = s.deliver host changes w.world := by
  -- for any surroundings, since every publication may change them
  induction changes generalizing w with
  | nil => rfl
  | cons c rest ih =>
    rw [deliver, deliver]
    simp only [Host.watched]
    rcases hp : host.publish (s.publication c.path c.diagnostics) w.world with ⟨_ | e, world⟩
    · have hrest := ih ⟨world, w.log ++ [.took (s.publication c.path c.diagnostics)]⟩
      simp only [Delivery.forget] at hrest ⊢
      rw [← hrest]
      rfl
    · rfl

lemma publishFile_watched (target : Path) (a : Attempt (Watched σ)) (l : List Diagnostic) :
    (s.publishFile host.watched target a l).forget = s.publishFile host target a.forget l := by
  rw [publishFile, publishFile]
  split
  · simp only [Host.watched, Attempt.forget]
    rcases host.publish (s.publication target l) a.world.world with ⟨_ | e, world⟩ <;> rfl
  · rfl

lemma publishAll_watched (a : Attempt (Watched σ)) (set : DiagnosticSet) :
    (s.publishAll host.watched a set).forget = s.publishAll host a.forget set := by
  have hd := s.deliver_watched host a.world (s.display.revise set).changes
  rw [publishAll, publishAll]
  simp only [Attempt.forget, ← hd, Delivery.forget]
  split <;> rfl

lemma lintFile_watched (p : Path) :
    (s.lintFile host.watched p w).forget = s.lintFile host p w.world := by
  rw [lintFile, lintFile]
  split
  · have hcwd : host.watched.workingDirectory w = host.workingDirectory w.world := rfl
    rw [hcwd]
    cases Path.absolute (host.workingDirectory w.world) p with
    | error reason => rfl
    | ok target =>
      have ha := attempt_watched host { s with lastTarget := some target } w target false
      simp only [← ha]
      split
      · next e he => simp only [Attempt.forget, he]; rfl
      · next set hset => simp only [Attempt.forget, hset]; exact publishFile_watched ..
  · rfl

lemma lintProject_watched (p : Path) (autofix : Bool) :
    (s.lintProject host.watched p autofix w).forget = s.lintProject host p autofix w.world := by
  rw [lintProject, lintProject]
  have hcwd : host.watched.workingDirectory w = host.workingDirectory w.world := rfl
  rw [hcwd]
  cases Path.absolute (host.workingDirectory w.world) p with
  | error reason => rfl
  | ok target =>
    have ha := attempt_watched host { s with lastTarget := some target } w target autofix
    simp only [← ha]
    split
    · next e he => simp only [Attempt.forget, he]; rfl
    · next set hset => simp only [Attempt.forget, hset]; exact publishAll_watched ..

lemma fix_watched : (s.fix host.watched w).forget = s.fix host w.world := by
  rw [fix, fix]
  cases s.lastTarget with
  | none => rfl
  | some target =>
    have h := s.lintProject_watched host w target true
    simp only [Step.forget] at h ⊢
    rw [← h]

lemma forget_excuse (step : Step (Watched σ)) : (excuse step).forget = excuse step.forget := by
  rw [excuse, excuse]
  simp only [Step.forget]
  split <;> rfl

lemma lintBuffer_watched (filePath : Option Path) :
    (s.lintBuffer host.watched filePath w).forget = s.lintBuffer host filePath w.world := by
  cases filePath with
  | none => rfl
  | some p => rw [lintBuffer, lintBuffer, forget_excuse, lintFile_watched]

lemma handle_watched (event : Event) :
    (s.handle host.watched event w).forget = s.handle host event w.world := by
  cases event with
  | bufferSaved filePath => exact s.lintBuffer_watched host w filePath
  | bufferEnter filePath => exact s.lintBuffer_watched host w filePath
  | command name =>
    rw [handle, handle]
    split
    · rw [forget_excuse, fix_watched]
    · rfl

/-- A session does the same whether it is watched or not. -/
theorem perform_watched (op : Operation) :
    (s.perform host.watched op w).forget = s.perform host op w.world := by
  cases op with
  | handle event => exact s.handle_watched host w event
  | lintFile p => exact s.lintFile_watched host w p
  | lintProject p autofix => exact s.lintProject_watched host w p autofix
  | fix => exact s.fix_watched host w

end Session

end LintBridge
