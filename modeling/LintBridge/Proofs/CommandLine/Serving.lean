/-
# Serving an editor event by event

The input of the service may have lines that are blank or no events.  What is printed, and what the
session comes to, only depends on the events among the lines: each is handled where the one before
it has left off, whatever has come of that one.

* `Session.steps`: the steps of a session that handles events one after another.
* `Machine.served_alike`: serving an editor is handling the events of the lines.
* `Machine.serve_transcript`: the law about what is printed, and about two inputs with the same
  events.
-/
import LintBridge.Proofs.Session.Lint
import LintBridge.Proofs.Wire.Lines

namespace LintBridge

variable {σ : Type}

/-! ## Steps -/

namespace Session

/-- The steps of a session that handles events, each in the session and the surroundings that the
step before has left. -/
def steps (host : Host σ) (s : Session) (w : σ) : List Event → List (Step σ)
  | [] => []
  | e :: rest =>
    let step := s.handle host e w
    step :: steps host step.session step.world rest

variable {host : Host σ}

/-- There is a step for every event. -/
lemma length_steps (s : Session) (w : σ) (events : List Event) :
    (s.steps host w events).length = events.length := by
  induction events generalizing s w with
  | nil => rfl
  | cons e rest ih => exact congrArg Nat.succ (ih _ _)

lemma exists_of_mem_steps {s : Session} {w : σ} {events : List Event} {step : Step σ}
    (h : step ∈ s.steps host w events) : ∃ s' w', ∃ e ∈ events, step = handle host s' e w' := by
  induction events generalizing s w with
  | nil => cases h
  | cons e rest ih =>
    rcases List.mem_cons.1 h with rfl | h
    · exact ⟨s, w, e, List.mem_cons_self, rfl⟩
    · obtain ⟨s', w', e', he', heq⟩ := ih h
      exact ⟨s', w', e', List.mem_cons_of_mem e he', heq⟩

/-- If the editor takes everything, then nothing has been sent in an event that fails. -/
lemma sent_of_error (haccepting : host.Accepting) {s : Session} {w : σ} {e : Event} {f : Failure}
    (h : (s.handle host e w).result = .error f) : (s.handle host e w).sent = [] := by
  obtain ⟨result, contacts, htakes, hresult⟩ := s.handle_takes host ⟨w, []⟩ e
  have hwatched := s.handle_watched host ⟨w, []⟩ e
  have hsent : (s.handle host e w).sent = taken contacts := by
    rw [← hwatched]
    exact htakes.sent_eq
  have hfailed : excused result = .error f := by
    rw [← hresult, ← h, ← hwatched]
    rfl
  have hcourse := htakes.course
  generalize (s.handle host.watched e ⟨w, []⟩).session = s' at hcourse
  rw [hsent]
  -- of the courses that end with a failure, only a refusal can have sent something before
  cases hcourse with
  | skipped reason target => rfl
  | stuck e target => rfl
  | failed target hcall hreading => rfl
  | refused target hcall hreading hway hsplit hrefusal =>
    obtain ⟨w', hw'⟩ := hrefusal
    exact absurd ((haccepting _ w').symm.trans hw') (by simp)
  | published target hcall hreading hway => cases hfailed

end Session

/-- What the editor is told about an event, if it takes everything: its publications, or the failure
and nothing else. -/
lemma Step.notices_eq {host : Host σ} (haccepting : host.Accepting) (s : Session) (w : σ)
    (e : Event) :
    let step := s.handle host e w
    step.notices =
      match step.result with
      | .ok _ => step.sent.map .publication
      | .error f => [.failure f] := by
  intro step
  rw [notices]
  cases hresult : step.result with
  | ok outcome => exact List.append_nil _
  | error f =>
    have hsent : step.sent = [] := Session.sent_of_error haccepting hresult
    rw [hsent]
    rfl

/-! ## Lines -/

/-- The event of a line, if it is one. -/
def Event.ofLine? (line : String) : Option Event := (Event.ofLine line).toOption

/-- A blank line is no event. -/
lemma Event.ofLine?_of_blank {line : String} (h : isBlankLine line = true) :
    ofLine? line = none := by
  have hall : ∀ c ∈ line.toList, Text.isBlank c = true := List.all_eq_true.1 h
  have htrim : Text.trimChars line.toList = [] := by
    rw [Text.trimChars, List.dropWhile_eq_nil_iff.2 hall]
    rfl
  rw [ofLine?, ofLine, htrim]
  rfl

/-! ## The service -/

/-- Two services agree, but for what was said about the work. -/
structure Service.Alike (s s' : Service σ) : Prop where
  session : s.session = s'.session
  world : s.world = s'.world
  stdout : s.stdout = s'.stdout

/-- The service after the last line of an input. -/
def Machine.served (m : Machine σ) (settings : Settings) (log : List Message) (input : String)
    (w : σ) : Service σ :=
  (linesOf input).foldl (Service.react m) (.start settings log w)

namespace Service

variable {m : Machine σ} {s s' s'' : Service σ}

lemma Alike.refl (s : Service σ) : s.Alike s := ⟨rfl, rfl, rfl⟩

lemma Alike.symm (h : s.Alike s') : s'.Alike s := ⟨h.session.symm, h.world.symm, h.stdout.symm⟩

lemma Alike.trans (h : s.Alike s') (h' : s'.Alike s'') : s.Alike s'' :=
  ⟨h.session.trans h'.session, h.world.trans h'.world, h.stdout.trans h'.stdout⟩

lemma Alike.handle (h : s.Alike s') (e : Event) : (s.handle m e).Alike (s'.handle m e) := by
  obtain ⟨hsession, hworld, hstdout⟩ := h
  constructor <;> simp only [Service.handle, hsession, hworld, hstdout]

lemma Alike.foldl_handle (h : s.Alike s') (events : List Event) :
    (events.foldl (Service.handle m) s).Alike (events.foldl (Service.handle m) s') := by
  induction events generalizing s s' with
  | nil => exact h
  | cons e rest ih => exact ih (h.handle e)

/-- A line that is an event is handled, and any other line is passed over. -/
lemma react_alike (m : Machine σ) (s : Service σ) (line : String) :
    (s.react m line).Alike ((Event.ofLine? line).elim s (s.handle m)) := by
  rw [react]
  split
  next hblank =>
    rw [Event.ofLine?_of_blank hblank]
    exact .refl s
  next =>
    rw [Event.ofLine?]
    cases Event.ofLine line with
    | ok event => exact .refl _
    | error fault => exact ⟨rfl, rfl, rfl⟩

/-- Reacting to lines is handling their events. -/
lemma foldl_react_alike (m : Machine σ) (lines : List String) (s : Service σ) :
    (lines.foldl (react m) s).Alike ((lines.filterMap Event.ofLine?).foldl (handle m) s) := by
  induction lines generalizing s with
  | nil => exact .refl s
  | cons line rest ih =>
    have hline := s.react_alike m line
    rw [List.foldl_cons, List.filterMap_cons]
    refine (ih _).trans ?_
    cases hevent : Event.ofLine? line with
    | none =>
      rw [hevent] at hline
      exact hline.foldl_handle _
    | some e =>
      rw [hevent] at hline
      exact hline.foldl_handle _

/-- What is printed while events are handled is what the editor is told about their steps. -/
lemma stdout_foldl_handle (m : Machine σ) (events : List Event) (s : Service σ) :
    (events.foldl (handle m) s).stdout =
      s.stdout ++ transcript ((s.session.steps m.host s.world events).flatMap Step.notices) := by
  -- on the events, for any service that has printed something before them
  induction events generalizing s with
  | nil => simp [Session.steps]
  | cons e rest ih =>
    rw [List.foldl_cons, ih, Session.steps, List.flatMap_cons, transcript_append,
      ← String.append_assoc, ← answer_eq]
    rfl

end Service

/-- **Serving an editor is handling the events of the lines.** -/
theorem Machine.served_alike (m : Machine σ) (settings : Settings) (log : List Message)
    (input : String) (w : σ) :
    (m.served settings log input w).Alike
      (((linesOf input).filterMap Event.ofLine?).foldl (Service.handle m)
        (.start settings log w)) :=
  Service.foldl_react_alike m (linesOf input) _

/-- Inputs with the same events lead to the same. -/
lemma Machine.served_congr (m : Machine σ) (settings : Settings) (log : List Message) (w : σ)
    {input input' : String}
    (h : (linesOf input).filterMap Event.ofLine? = (linesOf input').filterMap Event.ofLine?) :
    (m.served settings log input w).Alike (m.served settings log input' w) := by
  have halike := m.served_alike settings log input w
  rw [h] at halike
  exact halike.trans (m.served_alike settings log input' w).symm

/-- Lines that are no events can be left out. -/
lemma filterMap_filter_isSome (lines : List String) :
    (lines.filter fun line => (Event.ofLine? line).isSome).filterMap Event.ofLine? =
      lines.filterMap Event.ofLine? := by
  rw [List.filterMap_filter]
  refine List.filterMap_congr fun line _ => ?_
  cases Event.ofLine? line <;> rfl

/-- **The transcript of a service.**  There is a step for every line that is an event, in their
order, whatever has come of the steps before.  About each step the editor is told its publications
in the order in which they were sent or, if it has failed, the failure and nothing else.  What is
printed is a line for each of these notices, and the exit code is 0.  Blank lines are no events; and
if two inputs have the same lines apart from those that are no events, then the same is printed,
with the same exit code, and the session comes to the same. -/
theorem Machine.serve_transcript (m : Machine σ) (settings : Settings) (log : List Message)
    (w : σ) :
    (∀ input,
      let events := (linesOf input).filterMap Event.ofLine?
      let steps := (Session.start settings).steps m.host w events
      let notices := steps.flatMap Step.notices
      let result := m.serve settings log input w
      steps.length = events.length ∧
      (∀ step ∈ steps, step.notices =
        match step.result with
        | .ok _ => step.sent.map .publication
        | .error f => [.failure f]) ∧
      result.stdout = transcript notices ∧
      Text.split '\n' result.stdout.toList = notices.map (fun n => n.toJson.compact) ++ [[]] ∧
      result.code = 0) ∧
    (∀ line, isBlankLine line = true → Event.ofLine? line = none) ∧
    (∀ input input',
      let isEvent (line : String) : Bool := (Event.ofLine? line).isSome
      (linesOf input).filter isEvent = (linesOf input').filter isEvent →
        (m.serve settings log input w).stdout = (m.serve settings log input' w).stdout ∧
        (m.serve settings log input w).code = (m.serve settings log input' w).code ∧
        (m.served settings log input w).session = (m.served settings log input' w).session) := by
  refine ⟨fun input => ?_, fun line => Event.ofLine?_of_blank, ?_⟩
  · intro events steps notices result
    have hstdout : result.stdout = transcript notices := by
      have hserved : result.stdout = _ := (m.served_alike settings log input w).stdout
      rw [hserved, Service.stdout_foldl_handle]
      exact String.empty_append
    refine ⟨Session.length_steps _ w events, fun step hstep => ?_, hstdout, ?_, rfl⟩
    · obtain ⟨s, w', e, -, rfl⟩ := Session.exists_of_mem_steps hstep
      exact Step.notices_eq (fun _ _ => rfl) s w' e
    · rw [hstdout, split_transcript]
  · intro input input' isEvent h
    have hevents := congrArg (List.filterMap Event.ofLine?) h
    rw [filterMap_filter_isSome, filterMap_filter_isSome] at hevents
    have halike := m.served_congr settings log w hevents
    exact ⟨halike.stdout, rfl, halike.session⟩

/-- A machine for rehearsals, on which nothing can be read or written. -/
def Rehearsal.machine : Machine Rehearsal where
  workingDirectory := Rehearsal.host.workingDirectory
  isFile := Rehearsal.host.isFile
  readText _ _ := .error .notFound
  create _ _ _ := .error .notFound
  remove _ _ := .error .notFound
  run := Rehearsal.host.run

/-- A rehearsal in which the first of two events fails, once with and once without lines around them
that are no events. -/
theorem Machine.serve_transcript_rehearsed :
    let saved := "\x7b\"event\":\"bufferSaved\",\"filePath\":\"a.js\"\x7d"
    let entered := "\x7b\"filePath\":\"c.js\",\"event\":\"bufferEnter\"\x7d "
    let plain := saved ++ "\n" ++ entered
    let noisy := "\n[]\n" ++ saved ++ "\n \t\n" ++ entered ++ "\noff\n"
    let w : Rehearsal := ⟨[⟨some 2, "", "lost"⟩, Rehearsal.relief], 0⟩
    let isEvent (line : String) : Bool := (Event.ofLine? line).isSome
    let printed (input : String) := (Rehearsal.machine.serve {} [] input w).stdout
    (linesOf plain).filter isEvent = [saved, entered] ∧
      (linesOf noisy).filter isEvent = [saved, entered] ∧
      printed plain = printed noisy ∧
      (Rehearsal.machine.served {} [] plain w).session =
        (Rehearsal.machine.served {} [] noisy w).session ∧
      ((Session.start {}).steps Rehearsal.machine.host w [.bufferSaved (some ⟨"a.js"⟩),
        .bufferEnter (some ⟨"c.js"⟩)]).map (fun step => step.result.isOk) = [false, true] := by
  intro saved entered plain noisy w isEvent printed
  have hplain : (linesOf plain).filter isEvent = [saved, entered] := by decide +kernel
  have hnoisy : (linesOf noisy).filter isEvent = [saved, entered] := by decide +kernel
  obtain ⟨-, -, hsame⟩ := Rehearsal.machine.serve_transcript {} [] w
  obtain ⟨hprinted, -, hsession⟩ := hsame plain noisy (hplain.trans hnoisy.symm)
  exact ⟨hplain, hnoisy, hprinted, hsession, by decide +kernel⟩

end LintBridge
