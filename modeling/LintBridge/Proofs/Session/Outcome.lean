/-
# What the result of an operation tells

An operation of a session can end early for many reasons, each at another stage.  Whatever its
result is, this tells what the operation has done: nothing that the editor could see when it was
skipped or failed by itself, the publications before a refused one when the editor refused it, and
all of them when it says so.

* `Session.perform_truthful`: the law for every operation.

The surroundings have to keep to `Host.Honest`: if the lint tool could fail by saying that there is
no configuration, its failure would be excused.
-/
import LintBridge.Proofs.Session.Course

namespace LintBridge

variable {σ : Type} {host : Host σ}

/-- Surroundings in which running the lint tool fails only as a process, and the editor refuses
publications only as a failure to write. -/
structure Host.Honest (host : Host σ) : Prop where
  tool : ∀ call w e, (host.run call w).1 = .error e → ∃ reason, e = .process reason
  editor : ∀ p w e, (host.publish p w).1 = some e → ∃ reason, e = .io reason

lemma Host.Refuses.io (hhonest : host.Honest) {p : Publication} {e : Failure}
    (h : host.Refuses p e) : ∃ reason, e = .io reason := by
  obtain ⟨w, hw⟩ := h
  exact hhonest.editor p w e hw

/-! ## Answers that are of no use -/

lemma RunResult.report_error {r : RunResult} {e : Failure} (h : r.report = .error e) :
    ∃ reason, e = .process reason := by
  unfold report at h
  split at h
  · cases h
  · cases h
    exact ⟨_, rfl⟩

lemma DiagnosticSet.ofText_error {o : ConversionOptions} {base : Path} {text : String} {e : Failure}
    (h : ofText o base text = .error e) : ∃ reason, e = .parse reason := by
  unfold ofText FileReport.readAll at h
  split at h
  · cases h
  · cases h
    exact ⟨_, rfl⟩

variable {s s' : Session} {call : Invocation} {answer : Except Failure RunResult} {e : Failure}
  {result : Except Failure Outcome} {contacts : List Contact}

/-- An answer is of no use if it is a failure, if the run did not end well, or if what was printed
is no report. -/
lemma Session.reading_error (h : s.reading call answer = .error e) :
    answer = .error e ∨ (∃ reason, e = .process reason) ∨ ∃ reason, e = .parse reason := by
  cases answer with
  | error e' =>
    cases h
    exact .inl rfl
  | ok r =>
    change (r.report >>= DiagnosticSet.ofText s.settings.conversion call.directory) =
      .error e at h
    cases hreport : r.report with
    | error e' =>
      rw [hreport] at h
      cases h
      exact .inr (.inl (RunResult.report_error hreport))
    | ok text =>
      rw [hreport] at h
      exact .inr (.inr (DiagnosticSet.ofText_error h))

lemma Session.reading_error_of_honest (hhonest : host.Honest) (hcall : host.Answers call answer)
    (h : s.reading call answer = .error e) :
    (∃ reason, e = .process reason) ∨ ∃ reason, e = .parse reason := by
  rcases reading_error h with rfl | h | h
  · obtain ⟨w, hw⟩ := hcall
    exact .inl (hhonest.tool call w e hw)
  · exact .inl h
  · exact .inr h

/-! ## What the result of a course tells -/

namespace Course

lemma of_skipped {reason : SkipReason} (h : Course host s (.ok (.skipped reason)) s' contacts) :
    contacts = [] ∧ s'.display = s.display := by
  cases h
  exact ⟨rfl, rfl⟩

lemma of_error (h : Course host s (.error e) s' contacts) (hnone : refusals contacts = []) :
    s'.display = s.display ∧
      (contacts = [] ∨
        ∃ call answer, contacts = [.ran call answer] ∧ s.reading call answer = .error e) := by
  cases h with
  | stuck e target => exact ⟨rfl, .inl rfl⟩
  | @failed call answer e target hcall hreading => exact ⟨rfl, .inr ⟨call, answer, rfl, hreading⟩⟩
  | refused target hcall hreading hway hsplit hrefusal => simp at hnone

/-- A failure that is not the editor's comes before the editor is asked. -/
lemma refusals_eq_nil (hhonest : host.Honest) (h : Course host s (.error e) s' contacts)
    (hio : ∀ reason, e ≠ .io reason) : refusals contacts = [] := by
  cases h with
  | stuck e target => rfl
  | failed target hcall hreading => rfl
  | refused target hcall hreading hway hsplit hrefusal =>
    obtain ⟨reason, hreason⟩ := hrefusal.io hhonest
    exact absurd hreason (hio reason)

lemma of_refusal {q : Publication} (h : Course host s result s' contacts)
    (hmem : (q, e) ∈ refusals contacts) :
    result = .error e ∧ ∃ call answer set r before c rest,
      s.reading call answer = .ok set ∧ s.display.Way set r ∧ r.changes = before ++ c :: rest ∧
      q = s.message c ∧
      contacts = .ran call answer :: (before.map fun x => .took (s.message x)) ++ [.refused q e] ∧
      s'.display = s.display.apply before := by
  cases h with
  | skipped reason target => cases hmem
  | stuck e target => cases hmem
  | failed target hcall hreading => cases hmem
  | @refused call answer set r before after c e' target hcall hreading hway hsplit hrefusal =>
    have heq : q = s.message c ∧ e = e' := by simpa using hmem
    obtain ⟨rfl, rfl⟩ := heq
    exact ⟨rfl, call, answer, set, r, before, c, after, hreading, hway, hsplit, rfl, rfl, rfl⟩
  | published target hcall hreading hway => simp at hmem

lemma of_published {updated cleared : Nat}
    (h : Course host s (.ok (.published updated cleared)) s' contacts) :
    (taken contacts).length = updated + cleared ∧ refusals contacts = [] := by
  cases h with
  | @published call answer set r target hcall hreading hway =>
    have hcount : r.changes.length = r.updated + r.cleared := by
      rw [Revision.updated, Revision.cleared, Nat.add_comm]
      simpa using List.length_eq_countP_add_countP Change.clear (l := r.changes)
    exact ⟨by simpa using hcount, by simp⟩

/-- An answer that is of no use is what makes the course fail, and nothing comes after it. -/
lemma only_ran (h : Course host s result s' contacts) (hran : .ran call answer ∈ contacts)
    (hreading : s.reading call answer = .error e) :
    result = .error e ∧ contacts = [.ran call answer] ∧ s'.display = s.display := by
  cases h with
  | skipped reason target => cases hran
  | stuck e' target => cases hran
  | failed target hcall hreading' =>
    obtain ⟨rfl, rfl⟩ := by simpa using hran
    exact ⟨congrArg _ (Except.error.inj (hreading'.symm.trans hreading)), rfl, rfl⟩
  | refused target hcall hreading' hway hsplit hrefusal =>
    obtain ⟨rfl, rfl⟩ := by simpa using hran
    cases hreading.symm.trans hreading'
  | published target hcall hreading' hway =>
    obtain ⟨rfl, rfl⟩ := by simpa using hran
    cases hreading.symm.trans hreading'

/-- A missing configuration is noticed before the lint tool is called, so that it can be excused. -/
lemma excused (hhonest : host.Honest) (h : Course host s result s' contacts) :
    Course host s (Session.excused result) s' contacts := by
  unfold Session.excused
  split
  next start =>
    have hnone := h.refusals_eq_nil hhonest (fun _ => by simp)
    cases h with
    | stuck e target => exact .skipped .configNotFound target
    | failed target hcall hreading =>
      rcases Session.reading_error_of_honest hhonest hcall hreading with ⟨_, h⟩ | ⟨_, h⟩ <;> cases h
    | refused target hcall hreading hway hsplit hrefusal => simp at hnone
  · exact h

end Course

/-! ## What the result of an operation tells -/

namespace Session

variable (s)

/-- In honest surroundings every operation takes the course that its own result tells. -/
lemma perform_course (hhonest : host.Honest) (op : Operation) (w : σ) :
    let step := s.perform host.watched op ⟨w, []⟩
    Course host s step.result step.session step.world.log := by
  intro step
  obtain ⟨result, contacts, htakes, hresult⟩ := s.perform_takes host ⟨w, []⟩ op
  have hlog : step.world.log = contacts := htakes.log_eq
  rw [hlog]
  rcases hresult with (hresult : step.result = _) | (hresult : step.result = _)
  · rw [hresult]
    exact htakes.course
  · rw [hresult]
    exact htakes.course.excused hhonest

/-- **The result tells what was done.**  An operation that is skipped has not run the lint tool, has
not called the editor and leaves the display alone.  One that fails without being refused, or not
by a failure to write, has not called the editor and leaves the display alone: it has not run the
lint tool, or the answer was of no use.  When the editor refuses a publication, it has taken exactly
those before it, and the display is the old one with these.  When all is published, the editor has
taken as many publications as the result says.  And no event fails for want of a configuration. -/
theorem perform_truthful (hhonest : host.Honest) (op : Operation) (w : σ) :
    let step := s.perform host.watched op ⟨w, []⟩
    let log := step.world.log
    (∀ reason, step.result = .ok (.skipped reason) →
      log = [] ∧ step.session.display = s.display) ∧
    (∀ e, step.result = .error e → refusals log = [] ∨ (∀ reason, e ≠ .io reason) →
      taken log = [] ∧ refusals log = [] ∧ step.session.display = s.display ∧
      (log = [] ∨ ∃ call answer, log = [.ran call answer] ∧ s.reading call answer = .error e)) ∧
    (∀ q e, (q, e) ∈ refusals log →
      step.result = .error e ∧ ∃ call answer set r before c rest,
        s.reading call answer = .ok set ∧ s.display.Way set r ∧ r.changes = before ++ c :: rest ∧
        q = s.message c ∧
        log = .ran call answer :: (before.map fun x => .took (s.message x)) ++ [.refused q e] ∧
        step.session.display = s.display.apply before) ∧
    (∀ updated cleared, step.result = .ok (.published updated cleared) →
      (taken log).length = updated + cleared ∧ refusals log = []) ∧
    (∀ event start, op = .handle event → step.result ≠ .error (.configNotFound start)) := by
  intro step log
  have hcourse : Course host s step.result step.session log := s.perform_course hhonest op w
  refine ⟨?_, ?_, fun q e hmem => hcourse.of_refusal hmem, ?_, ?_⟩
  · intro reason hresult
    rw [hresult] at hcourse
    exact hcourse.of_skipped
  · intro e hresult hnot
    rw [hresult] at hcourse
    -- a failure of another kind than the editor's is not a refusal either
    have hnone : refusals log = [] := hnot.elim id (hcourse.refusals_eq_nil hhonest)
    obtain ⟨hdisplay, hlog⟩ := hcourse.of_error hnone
    refine ⟨?_, hnone, hdisplay, hlog⟩
    rcases hlog with hlog | ⟨call, answer, hlog, -⟩
    · rw [hlog, taken_nil]
    · rw [hlog, taken_ran, taken_nil]
  · intro updated cleared hresult
    rw [hresult] at hcourse
    exact hcourse.of_published
  · -- here the course says too little: only an event is excused
    rintro event start rfl
    obtain ⟨result, -, -, hresult⟩ := s.handle_takes host ⟨w, []⟩ event
    have hexcused : step.result = excused result := hresult
    rw [hexcused]
    exact excused_ne_configNotFound result start

lemma honest_rehearsal : Rehearsal.host.Honest where
  tool call w e he := by
    rcases w with ⟨_ | ⟨answer, rest⟩, room⟩ <;> cases he
  editor p w e he := by
    rcases w with ⟨answers, _ | n⟩ <;> cases he
    exact ⟨_, rfl⟩

/-- A rehearsal in which two files are reported, and the editor takes only the publication for the
first of them. -/
theorem perform_truthful_rehearsed :
    let s := Session.start {}
    let step := s.perform Rehearsal.host.watched (.lintProject ⟨"a.js"⟩ false)
      ⟨⟨[Rehearsal.complaints], 1⟩, []⟩
    let refused := s.publication ⟨"/p/b.js"⟩ [.warning "odd" (.point ⟨2, 0⟩)]
    Rehearsal.host.Honest ∧
      refusals step.world.log = [(refused, .io "the editor went away")] ∧
      step.result = .error (.io "the editor went away") ∧
      ∃ before, taken step.world.log = before.map s.message ∧
        step.session.display = s.display.apply before := by
  intro s step refused
  have hrefusals : refusals step.world.log = [(refused, .io "the editor went away")] := by
    decide +kernel
  have hlaw := perform_truthful s honest_rehearsal (.lintProject ⟨"a.js"⟩ false)
    ⟨[Rehearsal.complaints], 1⟩
  have hstep : s.perform Rehearsal.host.watched (.lintProject ⟨"a.js"⟩ false)
      ⟨⟨[Rehearsal.complaints], 1⟩, []⟩ = step := rfl
  rw [hstep] at hlaw
  clear_value step refused
  have hmem : (refused, .io "the editor went away") ∈ refusals step.world.log := by
    rw [hrefusals]
    exact List.mem_cons_self
  obtain ⟨-, -, hrefused, -, -⟩ := hlaw
  obtain ⟨hresult, _, _, _, _, before, _, _, -, -, -, -, hlog, hdisplay⟩ := hrefused _ _ hmem
  refine ⟨honest_rehearsal, hrefusals, hresult, before, ?_, hdisplay⟩
  simp [hlog]

end Session

end LintBridge
