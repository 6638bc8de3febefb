/-
# Linting a target

Linting one file and linting a project only differ in the way they take from the display to the run:
one changes the target, the other all files.  Up to there, and in what they do with the way, they
are one operation.

* `Session.lintTarget`: this operation, and `Session.lintFile_eq`, `Session.lintProject_eq`: both
  are cases of it.
* `Session.Lints`, `Session.perform_lints`: there is nothing else that a session does.
* `Session.runs_lintTarget`, `Session.lastTarget_lintTarget`: how the lint tool is called, and which
  target is remembered.
* `Session.reading_eq`: what an answer of the lint tool is read as.
* `Session.send_cases`: what comes of sending changes to an editor that may refuse one.
* `Host.Accepting`: editors that refuse nothing, and `Session.send_of_accepting`: what they are
  sent.
* `Session.finding`: what is found in a target, and `Session.lintTarget_of_error`,
  `Session.lintTarget_of_ok`: what comes of it.
-/
import LintBridge.Proofs.Session.Course
import LintBridge.Proofs.Settings.Extension

namespace LintBridge

variable {σ : Type}

/-! ## One operation -/

namespace Session

/-- Lint a target, and go from the display the way that belongs to what is found. -/
def lintTarget (host : Host σ) (s : Session) (target : Path) (autofix : Bool)
    (way : DiagnosticSet → Revision) (w : σ) : Step σ :=
  let s := s.aim (some target)
  let a := s.attempt host target autofix w
  match a.result with
  | .error e => ⟨.error e, s, a.world, a.runs, [], a.notes⟩
  | .ok set => s.send host a (way set)

variable {host : Host σ} {s : Session} {w : σ} {p target : Path} {autofix : Bool}
  {way : DiagnosticSet → Revision}

lemma lintFile_eq (haccepts : s.settings.accepts p = true)
    (htarget : Path.absolute (host.workingDirectory w) p = .ok target) :
    s.lintFile host p w =
      s.lintTarget host target false (fun set => s.display.reviseFile set target) w := by
  rw [lintFile, if_pos haccepts, htarget, lintTarget]
  simp only [publishFile_eq_send]
  rfl

lemma lintProject_eq (htarget : Path.absolute (host.workingDirectory w) p = .ok target) :
    s.lintProject host p autofix w = s.lintTarget host target autofix s.display.revise w := by
  rw [lintProject, htarget, lintTarget]
  simp only [publishAll_eq_send]
  rfl

/-- A step leaves the session and its surroundings alone, or it does to them what linting a target
does: an accepted file on its own, or a path that `Q` holds of with all files. -/
def Lints (host : Host σ) (s : Session) (w : σ) (Q : Path → Prop) (step : Step σ) : Prop :=
  (step.session = s ∧ step.world = w) ∨
    ∃ p target autofix way, Path.absolute (host.workingDirectory w) p = .ok target ∧
      ((s.settings.accepts p = true ∧ way = fun set => s.display.reviseFile set target) ∨
        (Q p ∧ way = s.display.revise)) ∧
      step.session = (s.lintTarget host target autofix way w).session ∧
      step.world = (s.lintTarget host target autofix way w).world

lemma lintFile_lints (host : Host σ) (s : Session) (p : Path) (w : σ) (Q : Path → Prop) :
    Lints host s w Q (s.lintFile host p w) := by
  by_cases haccepts : s.settings.accepts p = true
  · cases htarget : Path.absolute (host.workingDirectory w) p with
    | error reason =>
      rw [lintFile, if_pos haccepts, htarget]
      exact .inl ⟨rfl, rfl⟩
    | ok target =>
      rw [lintFile_eq haccepts htarget]
      exact .inr ⟨p, target, false, _, htarget, .inl ⟨haccepts, rfl⟩, rfl, rfl⟩
  · rw [lintFile, if_neg haccepts]
    exact .inl ⟨rfl, rfl⟩

lemma lintProject_lints (host : Host σ) (s : Session) (p : Path) (autofix : Bool) (w : σ)
    {Q : Path → Prop} (hp : Q p) : Lints host s w Q (s.lintProject host p autofix w) := by
  cases htarget : Path.absolute (host.workingDirectory w) p with
  | error reason =>
    rw [lintProject, htarget]
    exact .inl ⟨rfl, rfl⟩
  | ok target =>
    rw [lintProject_eq htarget]
    exact .inr ⟨p, target, autofix, _, htarget, .inr ⟨hp, rfl⟩, rfl, rfl⟩

lemma fix_lints (host : Host σ) (s : Session) (w : σ) :
    Lints host s w (fun p => s.lastTarget = some p) (s.fix host w) := by
  rw [fix]
  cases hlast : s.lastTarget with
  | none => exact .inl ⟨rfl, rfl⟩
  | some target => exact lintProject_lints host s target true w rfl

lemma lints_excuse {Q : Path → Prop} {step : Step σ} (h : Lints host s w Q step) :
    Lints host s w Q (excuse step) := by
  rw [Lints, session_excuse, world_excuse]
  exact h

/-- An event leads to linting the file of a buffer, or all files for the path that is remembered. -/
lemma handle_lints (host : Host σ) (s : Session) (e : Event) (w : σ) :
    Lints host s w (fun p => s.lastTarget = some p) (s.handle host e w) := by
  have hbuffer (filePath : Option Path) :
      Lints host s w (fun p => s.lastTarget = some p) (s.lintBuffer host filePath w) := by
    cases filePath with
    | none => exact .inl ⟨rfl, rfl⟩
    | some p => exact lints_excuse (lintFile_lints host s p w _)
  cases e with
  | bufferSaved filePath => exact hbuffer filePath
  | bufferEnter filePath => exact hbuffer filePath
  | command name =>
    rw [handle]
    split
    · exact lints_excuse (fix_lints host s w)
    · exact .inl ⟨rfl, rfl⟩

/-- Whatever a session is asked to do, it does nothing else than linting a target. -/
lemma perform_lints (host : Host σ) (s : Session) (op : Operation) (w : σ) :
    Lints host s w (fun _ => True) (s.perform host op w) := by
  have hany {Q : Path → Prop} {step : Step σ} (h : Lints host s w Q step) :
      Lints host s w (fun _ => True) step := by
    rcases h with h | ⟨p, target, autofix, way, htarget, hfile | ⟨-, hway⟩, hstep⟩
    · exact .inl h
    · exact .inr ⟨p, target, autofix, way, htarget, .inl hfile, hstep⟩
    · exact .inr ⟨p, target, autofix, way, htarget, .inr ⟨trivial, hway⟩, hstep⟩
  cases op with
  | handle event => exact hany (handle_lints host s event w)
  | lintFile p => exact lintFile_lints host s p w _
  | lintProject p autofix => exact lintProject_lints host s p autofix w trivial
  | fix => exact hany (fix_lints host s w)

/-- Of a session, running the lint tool only sees the settings. -/
lemma attempt_congr {s' : Session} (h : s.settings = s'.settings) (host : Host σ) (target : Path)
    (autofix : Bool) (w : σ) :
    s.attempt host target autofix w = s'.attempt host target autofix w := by
  rw [attempt, attempt, h]

/-- What is found in a target. -/
def finding (host : Host σ) (s : Session) (target : Path) (autofix : Bool) (w : σ) :
    Except Failure DiagnosticSet :=
  (s.attempt host target autofix w).result

/-- The reports that an answer of the lint tool holds. -/
def reportsOf (answer : Except Failure RunResult) : Except Failure (List FileReport) := do
  let r ← answer
  FileReport.readAll (← r.report)

/-- Reports are read in the same way in every session, and only what is made of them differs. -/
lemma reading_eq (s : Session) (call : Invocation) (answer : Except Failure RunResult) :
    s.reading call answer =
      (reportsOf answer).map (.ofReports s.settings.conversion call.directory) := by
  rcases answer with e | r
  · rfl
  · cases hreport : r.report <;>
      simp [reading, reportsOf, hreport, bind, Except.bind, DiagnosticSet.ofText, Except.map]

/-- With a project the lint tool is called. -/
lemma attempt_result {project : Project} (host : Host σ) (s : Session) (target : Path)
    (autofix : Bool) (w : σ) (hproject : Project.resolve (host.isFile w) target
      s.settings.configFiles s.settings.tool = .ok project) :
    let call := Invocation.make project.tool project.config [target] project.root autofix
    (s.attempt host target autofix w).result = s.reading call (host.run call w).1 := by
  simp only [attempt, hproject]
  rfl

/-- An attempt only succeeds in a project, with an answer that holds reports. -/
lemma attempt_ok {set : DiagnosticSet} (h : (s.attempt host target autofix w).result = .ok set) :
    ∃ project reports,
      Project.resolve (host.isFile w) target s.settings.configFiles s.settings.tool = .ok project ∧
      reportsOf (host.run (.make project.tool project.config [target] project.root autofix) w).1 =
        .ok reports ∧
      set = .ofReports s.settings.conversion project.root reports := by
  cases hproject : Project.resolve (host.isFile w) target s.settings.configFiles
      s.settings.tool with
  | error e =>
    simp only [attempt, hproject] at h
    cases h
  | ok project =>
    rw [attempt_result host s target autofix w hproject, reading_eq] at h
    cases hreports : reportsOf
        (host.run (.make project.tool project.config [target] project.root autofix) w).1 with
    | error e =>
      rw [hreports] at h
      cases h
    | ok reports =>
      rw [hreports] at h
      exact ⟨project, reports, rfl, hreports, (Except.ok.inj h).symm⟩

/-- In an attempt nothing is published. -/
lemma log_attempt (host : Host σ) (s : Session) (target : Path) (autofix : Bool) (w : Watched σ) :
    let log := (s.attempt host.watched target autofix w).world.log
    taken log = taken w.log ∧ refusals log = refusals w.log := by
  rcases attempt_cases host s w target autofix with ⟨_, -, hworld, -⟩ | ⟨_, _, -, -, hlog, -⟩
  · simp [hworld]
  · simp [hlog]

/-! ## Calls of the lint tool -/

/-- The calls of the lint tool on a target: none without a project, and else one. -/
def callsOn (isFile : Path → Bool) (settings : Settings) (target : Path) (autofix : Bool) :
    List Invocation :=
  match Project.resolve isFile target settings.configFiles settings.tool with
  | .error _ => []
  | .ok project =>
    [Invocation.make project.tool project.config [target] project.root autofix]

lemma runs_attempt (host : Host σ) (s : Session) (target : Path) (autofix : Bool) (w : σ) :
    (s.attempt host target autofix w).runs =
      callsOn (host.isFile w) s.settings target autofix := by
  rw [attempt, callsOn]
  cases Project.resolve (host.isFile w) target s.settings.configFiles s.settings.tool <;> rfl

lemma runs_send (host : Host σ) (s : Session) (a : Attempt σ) (r : Revision) :
    (s.send host a r).runs = a.runs := by
  rw [send]
  split <;> rfl

lemma lastTarget_send (host : Host σ) (s : Session) (a : Attempt σ) (r : Revision) :
    (s.send host a r).session.lastTarget = s.lastTarget := by
  rw [send]
  split <;> rfl

lemma settings_send (host : Host σ) (s : Session) (a : Attempt σ) (r : Revision) :
    (s.send host a r).session.settings = s.settings := by
  rw [send]
  split <;> rfl

/-- When all is published, the session is at the end of the way. -/
lemma display_send {a : Attempt σ} {r : Revision} {updated cleared : Nat}
    (h : (s.send host a r).result = .ok (.published updated cleared)) :
    (s.send host a r).session.display = r.display := by
  rw [send] at h ⊢
  cases hrefusal : (s.deliver host r.changes a.world).refusal with
  | some e =>
    rw [hrefusal] at h
    cases h
  | none => rfl

lemma runs_lintTarget :
    (s.lintTarget host target autofix way w).runs =
      callsOn (host.isFile w) s.settings target autofix := by
  have hruns := (s.aim (some target)).runs_attempt host target autofix w
  rw [lintTarget]
  split
  · exact hruns
  · rw [runs_send]
    exact hruns

/-- The target is remembered, whatever comes of it. -/
lemma lastTarget_lintTarget :
    (s.lintTarget host target autofix way w).session.lastTarget = some target := by
  rw [lintTarget]
  split
  · rfl
  · rw [lastTarget_send]
    rfl

/-! ## Sending to an editor that may refuse -/

/-- Some first changes are sent.  These are all, and the session is at the end of the way, or the
editor has refused the next one, and the display is the old one with these. -/
lemma send_cases (host : Host σ) (s : Session) (a : Attempt (Watched σ)) (r : Revision) :
    let step := s.send host.watched a r
    ∃ sent rest : List Change, r.changes = sent ++ rest ∧
      taken step.world.log = taken a.world.log ++ sent.map s.message ∧
      ((rest = [] ∧ step.session.display = r.display) ∨
        (refusals step.world.log ≠ refusals a.world.log ∧
          step.session.display = s.display.apply sent)) := by
  simp only [send]
  rcases deliver_cases host s a.world r.changes with
    ⟨hnone, hdelivered, hlog⟩ | ⟨c, rest, e, hsplit, hsome, -, hlog⟩
  · simp only [hnone]
    refine ⟨r.changes, [], (List.append_nil _).symm, ?_, .inl ⟨rfl, rfl⟩⟩
    simp [hlog]
  · simp only [hsome]
    refine ⟨_, c :: rest, hsplit, ?_, .inr ⟨?_, rfl⟩⟩
    · simp [hlog]
    · simp [hlog]

/-! ## Sending to an editor that takes everything -/

end Session

/-- The editor refuses no publication. -/
def Host.Accepting (host : Host σ) : Prop := ∀ p w, (host.publish p w).1 = none

namespace Session

variable {host : Host σ} {s : Session} {w : σ} {target : Path} {autofix : Bool}
  {way : DiagnosticSet → Revision}

lemma deliver_of_accepting (haccepting : host.Accepting) (s : Session) (changes : List Change)
    (w : σ) :
    (s.deliver host changes w).refusal = none ∧ (s.deliver host changes w).delivered = changes := by
  induction changes generalizing w with
  | nil => exact ⟨rfl, rfl⟩
  | cons c rest ih =>
    rw [deliver]
    have hnone := haccepting (s.publication c.path c.diagnostics) w
    rcases hp : host.publish (s.publication c.path c.diagnostics) w with ⟨_ | e, world⟩
    · exact ⟨(ih world).1, congrArg (c :: ·) (ih world).2⟩
    · rw [hp] at hnone
      cases hnone

/-- All changes are sent, and the session is at the end of the way. -/
lemma send_of_accepting (haccepting : host.Accepting) (s : Session) (a : Attempt σ)
    (r : Revision) :
    let step := s.send host a r
    step.result = .ok (.published r.updated r.cleared) ∧
      step.session = s.withDisplay r.display ∧ step.sent = r.changes.map s.message := by
  obtain ⟨hnone, hdelivered⟩ := deliver_of_accepting haccepting s r.changes a.world
  simp only [send, hnone, hdelivered, and_self]

/-- When nothing is found, nothing is sent. -/
lemma lintTarget_of_error {e : Failure} (hfinding : s.finding host target autofix w = .error e) :
    let step := s.lintTarget host target autofix way w
    step.result = .error e ∧ step.session = s.aim (some target) ∧ step.sent = [] := by
  have haim : ((s.aim (some target)).attempt host target autofix w).result = .error e := hfinding
  simp only [lintTarget, haim, and_self]

/-- When something is found, all changes on the way to it are sent. -/
lemma lintTarget_of_ok (haccepting : host.Accepting) {set : DiagnosticSet}
    (hfinding : s.finding host target autofix w = .ok set) :
    let step := s.lintTarget host target autofix way w
    step.result = .ok (.published (way set).updated (way set).cleared) ∧
      step.session = (s.aim (some target)).withDisplay (way set).display ∧
      step.sent = (way set).changes.map s.message := by
  have haim : ((s.aim (some target)).attempt host target autofix w).result = .ok set := hfinding
  simp only [lintTarget, haim]
  exact send_of_accepting haccepting (s.aim (some target)) _ _

end Session

end LintBridge
