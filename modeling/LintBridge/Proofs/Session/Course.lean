/-
# What a session can do

Whatever a session is asked to do, it takes one of a few courses: it does nothing, it cannot call
the lint tool, it cannot use what the lint tool answers, the editor refuses a publication, or all
publications are taken.  Each course fixes what the session is afterwards and what has passed
between it and its surroundings, so that a law about sessions is proved by looking at the courses.

* `Course`: the courses.
* `Session.perform_takes`: there are no others.
-/
import LintBridge.Proofs.Display.Revision
import LintBridge.Proofs.Session.Contact

namespace LintBridge

variable {σ : Type}

namespace Host

/-- The lint tool can give this answer to a call. -/
def Answers (host : Host σ) (call : Invocation) (answer : Except Failure RunResult) : Prop :=
  ∃ w, (host.run call w).1 = answer

/-- The editor can refuse a publication for this reason. -/
def Refuses (host : Host σ) (p : Publication) (e : Failure) : Prop :=
  ∃ w, (host.publish p w).1 = some e

end Host

namespace Session

/-- The diagnostics that an answer of the lint tool stands for. -/
def reading (s : Session) (call : Invocation) (answer : Except Failure RunResult) :
    Except Failure DiagnosticSet := do
  let r ← answer
  DiagnosticSet.ofText s.settings.conversion call.directory (← r.report)

/-- The publication of a change. -/
def message (s : Session) (c : Change) : Publication := s.publication c.path c.diagnostics

/-- The session with another target for fixing. -/
def aim (s : Session) (target : Option Path) : Session := { s with lastTarget := target }

/-- The session with another display. -/
def withDisplay (s : Session) (d : Display) : Session := { s with display := d }

@[simp] lemma aim_display (s : Session) (target : Option Path) :
    (s.aim target).display = s.display := rfl

@[simp] lemma withDisplay_display (s : Session) (d : Display) : (s.withDisplay d).display = d := rfl

@[simp] lemma content_message (s : Session) (c : Change) : (s.message c).content = c.content := rfl

end Session

/-- The courses that an operation of a session can take: its result, the session afterwards, and
what passes between the session and its surroundings. -/
inductive Course (host : Host σ) (s : Session) :
    Except Failure Outcome → Session → List Contact → Prop
  /-- Nothing is done, but a target may be remembered. -/
  | skipped (reason : SkipReason) (target : Option Path) :
      Course host s (.ok (.skipped reason)) (s.aim target) []
  /-- The lint tool cannot be called. -/
  | stuck (e : Failure) (target : Option Path) : Course host s (.error e) (s.aim target) []
  /-- The answer of the lint tool is of no use. -/
  | failed {call : Invocation} {answer : Except Failure RunResult} {e : Failure}
      (target : Option Path) (hcall : host.Answers call answer)
      (hreading : s.reading call answer = .error e) :
      Course host s (.error e) (s.aim target) [.ran call answer]
  /-- The editor takes the publications of some changes, and refuses the next one. -/
  | refused {call : Invocation} {answer : Except Failure RunResult} {set : DiagnosticSet}
      {r : Revision} {before after : List Change} {c : Change} {e : Failure}
      (target : Option Path) (hcall : host.Answers call answer)
      (hreading : s.reading call answer = .ok set) (hway : s.display.Way set r)
      (hsplit : r.changes = before ++ c :: after) (hrefusal : host.Refuses (s.message c) e) :
      Course host s (.error e) ((s.aim target).withDisplay (s.display.apply before))
        (.ran call answer :: (before.map fun c => .took (s.message c)) ++
          [.refused (s.message c) e])
  /-- The editor takes the publications of all changes. -/
  | published {call : Invocation} {answer : Except Failure RunResult} {set : DiagnosticSet}
      {r : Revision} (target : Option Path) (hcall : host.Answers call answer)
      (hreading : s.reading call answer = .ok set) (hway : s.display.Way set r) :
      Course host s (.ok (.published r.updated r.cleared)) ((s.aim target).withDisplay r.display)
        (.ran call answer :: r.changes.map fun c => .took (s.message c))

/-- The settings of a session never change. -/
lemma Course.settings_eq {host : Host σ} {s s' : Session} {result : Except Failure Outcome}
    {contacts : List Contact} (h : Course host s result s' contacts) :
    s'.settings = s.settings := by
  cases h <;> rfl

/-- A step takes a course from a session: the course gives the session afterwards, what is added to
the log, and what the step itself says of this. -/
structure Step.Takes (host : Host σ) (s : Session) (log : List Contact) (step : Step (Watched σ))
    (result : Except Failure Outcome) (contacts : List Contact) : Prop where
  course : Course host s result step.session contacts
  log_eq : step.world.log = log ++ contacts
  sent_eq : step.sent = taken contacts
  runs_eq : step.runs = calls contacts

@[simp] lemma calls_map_took (s : Session) (changes : List Change) :
    calls (changes.map fun c => .took (s.message c)) = [] := by
  induction changes with
  | nil => rfl
  | cons c rest ih => exact ih

@[simp] lemma taken_map_took (s : Session) (changes : List Change) :
    taken (changes.map fun c => .took (s.message c)) = changes.map s.message := by
  induction changes with
  | nil => rfl
  | cons c rest ih => exact congrArg (s.message c :: ·) ih

@[simp] lemma refusals_map_took (s : Session) (changes : List Change) :
    refusals (changes.map fun c => .took (s.message c)) = [] := by
  induction changes with
  | nil => rfl
  | cons c rest ih => exact ih

namespace Session

variable (host : Host σ) (s : Session) (w : Watched σ)

/-! ## Running the lint tool -/

/-- The lint tool is not run, or run once, and then its answer is read. -/
lemma attempt_cases (target : Path) (autofix : Bool) :
    let a := s.attempt host.watched target autofix w
    (∃ e, a.result = .error e ∧ a.world = w ∧ a.runs = []) ∨
      ∃ call answer, host.Answers call answer ∧ a.result = s.reading call answer ∧
        a.world.log = w.log ++ [.ran call answer] ∧ a.runs = [call] := by
  simp only [attempt]
  cases Project.resolve (host.watched.isFile w) target s.settings.configFiles s.settings.tool with
  | error e => exact .inl ⟨e, rfl, rfl, rfl⟩
  | ok project =>
    let call := Invocation.make project.tool project.config [target] project.root autofix
    exact .inr ⟨call, (host.run call w.world).1, ⟨w.world, rfl⟩, rfl, rfl, rfl⟩

/-! ## Sending changes -/

variable {host s w} {c : Change} {rest : List Change} {world : σ} {e : Failure}

lemma deliver_cons_taken (h : host.publish (s.message c) w.world = (none, world)) :
    s.deliver host.watched (c :: rest) w =
      let d := s.deliver host.watched rest ⟨world, w.log ++ [.took (s.message c)]⟩
      { d with delivered := c :: d.delivered } := by
  have hw : host.watched.publish (s.publication c.path c.diagnostics) w =
      (none, ⟨world, w.log ++ [.took (s.message c)]⟩) := by
    simp only [message] at h
    simp only [Host.watched, h, message]
  rw [deliver, hw]

lemma deliver_cons_refused (h : host.publish (s.message c) w.world = (some e, world)) :
    s.deliver host.watched (c :: rest) w =
      ⟨some e, [], ⟨world, w.log ++ [.refused (s.message c) e]⟩⟩ := by
  have hw : host.watched.publish (s.publication c.path c.diagnostics) w =
      (some e, ⟨world, w.log ++ [.refused (s.message c) e]⟩) := by
    simp only [message] at h
    simp only [Host.watched, h, message]
  rw [deliver, hw]

variable (host s w)

/-- All changes are sent, or those before one that is refused. -/
lemma deliver_cases (changes : List Change) :
    let d := s.deliver host.watched changes w
    (d.refusal = none ∧ d.delivered = changes ∧
        d.world.log = w.log ++ changes.map fun c => .took (s.message c)) ∨
      ∃ c after e, changes = d.delivered ++ c :: after ∧ d.refusal = some e ∧
        host.Refuses (s.message c) e ∧
        d.world.log = w.log ++
          ((d.delivered.map fun c => .took (s.message c)) ++ [.refused (s.message c) e]) := by
  -- on the changes that are still to be sent; what was sent before is in the log of `w`
  induction changes generalizing w with
  | nil => exact .inl ⟨rfl, rfl, (List.append_nil _).symm⟩
  | cons c rest ih =>
    rcases hp : host.publish (s.message c) w.world with ⟨_ | e, world⟩
    · rw [deliver_cons_taken hp]
      rcases ih ⟨world, w.log ++ [.took (s.message c)]⟩ with
        ⟨hnone, hdelivered, hlog⟩ | ⟨c', after, e, hsplit, hsome, hrefuses, hlog⟩
      · refine .inl ⟨hnone, congrArg _ hdelivered, ?_⟩
        simp only [hlog, List.map_cons, List.append_assoc, List.singleton_append]
      · refine .inr ⟨c', after, e, congrArg _ hsplit, hsome, hrefuses, ?_⟩
        simp only [hlog, List.map_cons, List.append_assoc, List.cons_append, List.nil_append]
    · rw [deliver_cons_refused hp]
      exact .inr ⟨c, rest, e, rfl, rfl, ⟨w.world, by rw [hp]⟩, rfl⟩

/-- Send the changes of a revision, and take over its display if none is refused. -/
def send (host : Host σ) (s : Session) (a : Attempt σ) (r : Revision) : Step σ :=
  let d := s.deliver host r.changes a.world
  let sent := d.delivered.map s.message
  match d.refusal with
  | some e =>
    ⟨.error e, s.withDisplay (s.display.apply d.delivered), d.world, a.runs, sent, a.notes⟩
  | none =>
    ⟨.ok (.published r.updated r.cleared), s.withDisplay r.display, d.world, a.runs, sent, a.notes⟩

/-- Publishing a run is sending the way to it. -/
lemma publishAll_eq_send (host : Host σ) (a : Attempt σ) (set : DiagnosticSet) :
    s.publishAll host a set = s.send host a (s.display.revise set) := rfl

/-- Publishing one file is sending at most one change. -/
lemma publishFile_eq_send (host : Host σ) (a : Attempt σ) (set : DiagnosticSet) (target : Path) :
    s.publishFile host target a ((set.find? target).getD []) =
      s.send host a (s.display.reviseFile set target) := by
  rw [publishFile, send, Display.reviseFile]
  by_cases hneeds : s.display.needsPublish target ((set.find? target).getD []) = true
  · rw [if_pos hneeds, if_pos hneeds]
    simp only [deliver]
    rcases host.publish (s.publication target ((set.find? target).getD [])) a.world with
      ⟨_ | e, world⟩ <;> rfl
  · rw [if_neg hneeds, if_neg hneeds]
    rfl

/-- Sending a revision after the lint tool was run. -/
lemma send_takes {s : Session} {log : List Contact} {call : Invocation}
    {answer : Except Failure RunResult} {set : DiagnosticSet} {r : Revision}
    {a : Attempt (Watched σ)} (target : Option Path) (hcall : host.Answers call answer)
    (hreading : s.reading call answer = .ok set) (hway : s.display.Way set r)
    (hlog : a.world.log = log ++ [.ran call answer]) (hruns : a.runs = [call]) :
    let step := (s.aim target).send host.watched a r
    ∃ contacts, step.Takes host s log step.result contacts := by
  have hmessage : (s.aim target).message = s.message := rfl
  rcases deliver_cases host (s.aim target) a.world r.changes with
    ⟨hnone, hdelivered, hworld⟩ | ⟨c, after, e, hsplit, hsome, hrefuses, hworld⟩
  · rw [hmessage, hlog, List.append_assoc] at hworld
    refine ⟨.ran call answer :: r.changes.map fun c => .took (s.message c), ?_⟩
    simp only [send, hnone, hdelivered, hruns, hmessage]
    exact ⟨.published target hcall hreading hway, hworld, by simp, by simp⟩
  · rw [hmessage, hlog, List.append_assoc] at hworld
    rw [hmessage] at hrefuses
    simp only [send, hsome, hruns, hmessage]
    generalize (deliver host.watched (s.aim target) r.changes a.world).delivered = before at *
    refine ⟨.ran call answer :: (before.map fun c => .took (s.message c)) ++
      [.refused (s.message c) e], ?_⟩
    exact ⟨.refused target hcall hreading hway hsplit hrefuses, hworld, by simp, by simp⟩

/-! ## The operations -/

/-- An operation that is skipped has no contact with the surroundings. -/
lemma skip_takes (reason : SkipReason) (notes : List Note) :
    (s.skip reason notes w).Takes host s w.log (.ok (.skipped reason)) [] where
  course := .skipped reason s.lastTarget
  log_eq := (List.append_nil _).symm
  sent_eq := rfl
  runs_eq := rfl

/-- Running the lint tool on a target, and sending what its answer asks for. -/
lemma attempt_takes (target : Path) (autofix : Bool)
    (publish : Attempt (Watched σ) → DiagnosticSet → Step (Watched σ))
    (hpublish : ∀ a set, ∃ r, s.display.Way set r ∧
      publish a set = (s.aim (some target)).send host.watched a r) :
    let a := (s.aim (some target)).attempt host.watched target autofix w
    let step : Step (Watched σ) :=
      match a.result with
      | .error e => ⟨.error e, s.aim (some target), a.world, a.runs, [], a.notes⟩
      | .ok set => publish a set
    ∃ contacts, step.Takes host s w.log step.result contacts := by
  rcases attempt_cases host (s.aim (some target)) w target autofix with
    ⟨e, he, hworld, hruns⟩ | ⟨call, answer, hcall, hresult, hlog, hruns⟩
  · simp only [he, hworld, hruns]
    exact ⟨[], .stuck e (some target), (List.append_nil _).symm, rfl, rfl⟩
  · have hreading : (s.aim (some target)).reading call answer = s.reading call answer := rfl
    rw [hreading] at hresult
    simp only
    split
    next e he =>
      rw [he] at hresult
      -- the log has the call, and the editor was not asked
      exact ⟨[.ran call answer], .failed (some target) hcall hresult.symm, hlog, rfl, hruns⟩
    next set hset =>
      rw [hset] at hresult
      obtain ⟨r, hway, hsend⟩ := hpublish _ set
      rw [hsend]
      exact send_takes host (some target) hcall hresult.symm hway hlog hruns

lemma lintFile_takes (p : Path) :
    let step := s.lintFile host.watched p w
    ∃ contacts, step.Takes host s w.log step.result contacts := by
  rw [lintFile]
  split
  · split
    next reason _ =>
      exact ⟨[], .stuck _ s.lastTarget, (List.append_nil _).symm, rfl, rfl⟩
    next target _ =>
      exact attempt_takes host s w target false
        (fun a set => (s.aim (some target)).publishFile host.watched target a
          ((set.find? target).getD []))
        fun a set => ⟨_, .inr ⟨target, rfl⟩, publishFile_eq_send _ host.watched a set target⟩
  · exact ⟨[], skip_takes host s w _ _⟩

lemma lintProject_takes (p : Path) (autofix : Bool) :
    let step := s.lintProject host.watched p autofix w
    ∃ contacts, step.Takes host s w.log step.result contacts := by
  rw [lintProject]
  split
  next reason _ =>
    exact ⟨[], .stuck _ s.lastTarget, (List.append_nil _).symm, rfl, rfl⟩
  next target _ =>
    exact attempt_takes host s w target autofix
      (fun a set => (s.aim (some target)).publishAll host.watched a set)
      fun a set => ⟨_, .inl rfl, publishAll_eq_send _ host.watched a set⟩

lemma fix_takes :
    let step := s.fix host.watched w
    ∃ contacts, step.Takes host s w.log step.result contacts := by
  rw [fix]
  split
  · exact ⟨[], skip_takes host s w _ _⟩
  next target _ =>
    obtain ⟨contacts, h⟩ := s.lintProject_takes host w target true
    exact ⟨contacts, h.course, h.log_eq, h.sent_eq, h.runs_eq⟩

/-- The result of an operation to which a missing configuration is no failure. -/
def excused : Except Failure Outcome → Except Failure Outcome
  | .error (.configNotFound _) => .ok (.skipped .configNotFound)
  | result => result

lemma excused_ne_configNotFound (result : Except Failure Outcome) (start : Path) :
    excused result ≠ .error (.configNotFound start) := by
  unfold excused
  split
  · intro h
    cases h
  next h => exact h start

lemma excuse_result (step : Step σ) : (excuse step).result = excused step.result := by
  unfold excuse excused
  rcases h : step.result with e | outcome
  · cases e <;> simp [h]
  · simp [h]

@[simp] lemma session_excuse (step : Step σ) : (excuse step).session = step.session := by
  rw [excuse]
  split <;> rfl

@[simp] lemma runs_excuse (step : Step σ) : (excuse step).runs = step.runs := by
  rw [excuse]
  split <;> rfl

@[simp] lemma sent_excuse (step : Step σ) : (excuse step).sent = step.sent := by
  rw [excuse]
  split <;> rfl

@[simp] lemma world_excuse (step : Step σ) : (excuse step).world = step.world := by
  rw [excuse]
  split <;> rfl

/-- Excusing a step changes its result, but not its course. -/
lemma takes_excuse {s : Session} {log : List Contact} {step : Step (Watched σ)}
    {result : Except Failure Outcome} {contacts : List Contact}
    (h : step.Takes host s log result contacts) :
    (excuse step).Takes host s log result contacts := by
  constructor
  · simpa using h.course
  · simpa using h.log_eq
  · simpa using h.sent_eq
  · simpa using h.runs_eq

lemma lintBuffer_takes (filePath : Option Path) :
    let step := s.lintBuffer host.watched filePath w
    ∃ result contacts, step.Takes host s w.log result contacts ∧ step.result = excused result := by
  cases filePath with
  | none =>
    exact ⟨_, [], skip_takes host s w .missingFilePath _, rfl⟩
  | some p =>
    obtain ⟨contacts, h⟩ := s.lintFile_takes host w p
    exact ⟨_, contacts, takes_excuse host h, excuse_result _⟩

lemma handle_takes (event : Event) :
    let step := s.handle host.watched event w
    ∃ result contacts, step.Takes host s w.log result contacts ∧ step.result = excused result := by
  cases event with
  | bufferSaved filePath => exact s.lintBuffer_takes host w filePath
  | bufferEnter filePath => exact s.lintBuffer_takes host w filePath
  | command name =>
    rw [handle]
    split
    · obtain ⟨contacts, h⟩ := s.fix_takes host w
      exact ⟨_, contacts, takes_excuse host h, excuse_result _⟩
    · exact ⟨_, [], skip_takes host s w (.unknownCommand name) _, rfl⟩

/-- **There are no other courses.**  Whatever a session is asked to do, it takes a course, and its
result is that of the course, or a missing configuration is excused. -/
theorem perform_takes (op : Operation) :
    let step := s.perform host.watched op w
    ∃ result contacts, step.Takes host s w.log result contacts ∧
      (step.result = result ∨ step.result = excused result) := by
  cases op with
  | handle event =>
    obtain ⟨result, contacts, h, hresult⟩ := s.handle_takes host w event
    exact ⟨result, contacts, h, .inr hresult⟩
  | lintFile p =>
    obtain ⟨contacts, h⟩ := s.lintFile_takes host w p
    exact ⟨_, contacts, h, .inl rfl⟩
  | lintProject p autofix =>
    obtain ⟨contacts, h⟩ := s.lintProject_takes host w p autofix
    exact ⟨_, contacts, h, .inl rfl⟩
  | fix =>
    obtain ⟨contacts, h⟩ := s.fix_takes host w
    exact ⟨_, contacts, h, .inl rfl⟩

/-- The log has the publications that the step says it has sent. -/
lemma taken_perform (op : Operation) (w : σ) :
    let step := s.perform host.watched op ⟨w, []⟩
    taken step.world.log = step.sent := by
  intro step
  obtain ⟨result, contacts, htakes, -⟩ := s.perform_takes host ⟨w, []⟩ op
  have hlog : step.world.log = contacts := htakes.log_eq
  rw [hlog, htakes.sent_eq]

/-- The log has the calls of the lint tool that the step says it has made. -/
lemma calls_perform (op : Operation) (w : σ) :
    let step := s.perform host.watched op ⟨w, []⟩
    calls step.world.log = step.runs := by
  intro step
  obtain ⟨result, contacts, htakes, -⟩ := s.perform_takes host ⟨w, []⟩ op
  have hlog : step.world.log = contacts := htakes.log_eq
  rw [hlog, htakes.runs_eq]

end Session

end LintBridge
