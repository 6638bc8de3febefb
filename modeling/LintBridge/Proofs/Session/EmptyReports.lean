/-
# Files without violations

The lint tool may report a file without violations, and the user may have such files kept in a run
or left out of it.  Two sessions that differ in this choice alone send different publications and
track different files.  Yet the editor shows the same in both, after every operation.

* `Session.Twins`: such sessions, while they show the same.
* `Step.Matched`: what they do has the same end, and has sent the same lists, apart from empty ones.
* `Session.perform_matched`: whatever twins are asked to do, they do what matches.
* `History.empty_reports_unseen`: the law for any sequence of operations.
-/
import LintBridge.Proofs.Report.Grouping
import LintBridge.Proofs.Session.Lint
import LintBridge.Proofs.Session.Mirror

namespace LintBridge

variable {σ : Type} {host : Host σ}

/-- The settings with another choice of what happens to files without violations. -/
def Settings.withEmptyRecords (s : Settings) (policy : EmptyPolicy) : Settings :=
  { s with emptyRecords := policy }

/-- The surroundings do not differ in what a session asks them before it publishes. -/
structure Host.Alike (host : Host σ) (w w' : σ) : Prop where
  directory : host.workingDirectory w = host.workingDirectory w'
  files : host.isFile w = host.isFile w'
  answers : ∀ call, (host.run call w).1 = (host.run call w').1

/-- Two calls ask for the same operation, in surroundings that are alike. -/
structure Call.Alike (host : Host σ) (c c' : Call σ) : Prop where
  operation : c.operation = c'.operation
  world : host.Alike c.world c'.world

lemma Host.Alike.refl (w : σ) : host.Alike w w := ⟨rfl, rfl, fun _ => rfl⟩

lemma Call.Alike.refl (c : Call σ) : c.Alike host c := ⟨rfl, .refl c.world⟩

/-! ## Revisions that show the same -/

/-- Two revisions send the same lists, apart from empty ones, and lead to displays that show the
same. -/
structure Revision.Matched (r r' : Revision) : Prop where
  filled : ((r.changes.map Change.content).filter fun e => !e.2.isEmpty) =
    (r'.changes.map Change.content).filter fun e => !e.2.isEmpty
  screen : r.display.screen = r'.display.screen
  tidy : r.display.Tidy
  tidy' : r'.display.Tidy

namespace Display

variable {d d' : Display} {next next' : DiagnosticSet} {p : Path}

lemma needsPublish_of_ne_nil {l : List Diagnostic} (h : l ≠ []) : d.needsPublish p l = true := by
  simp [needsPublish, h]

/-- The lists that are sent on the way to a run, apart from empty ones, are those of the run. -/
lemma filled_revise (d : Display) (next : DiagnosticSet) :
    (((d.revise next).changes.map Change.content).filter fun e => !e.2.isEmpty) =
      next.filled := by
  have hclears : (((d.clears next).map Change.content).filter fun e => !e.2.isEmpty) = [] := by
    rw [map_content_clears, List.filter_eq_nil_iff]
    intro e he
    obtain ⟨q, -, rfl⟩ := List.mem_map.1 he
    simp
  rw [revise, List.map_append, List.filter_append, hclears, List.append_nil, map_content_updates,
    List.filter_filter, DiagnosticSet.filled]
  refine List.filter_congr fun e _ => ?_
  cases hl : e.2 with
  | nil => simp
  | cons x rest => simp [needsPublish_of_ne_nil]

/-- On the way to a run in one file, a list is sent that is not empty if the run has one. -/
lemma filled_reviseFile (d : Display) (next : DiagnosticSet) (p : Path) :
    (((d.reviseFile next p).changes.map Change.content).filter fun e => !e.2.isEmpty) =
      if next.screen p = [] then [] else [(p, next.screen p)] := by
  rw [reviseFile]
  by_cases hempty : next.screen p = []
  · rw [if_pos hempty]
    rw [DiagnosticSet.screen] at hempty
    rw [hempty]
    split <;> rfl
  · rw [if_neg hempty]
    rw [DiagnosticSet.screen] at hempty ⊢
    rw [if_pos (needsPublish_of_ne_nil hempty)]
    simp [Change.content, hempty]

lemma revise_matched (h : next.Plain) (h' : next'.Plain) (hscreen : next.screen = next'.screen) :
    (d.revise next).Matched (d'.revise next') where
  filled := by rw [filled_revise, filled_revise, DiagnosticSet.filled_eq_of_screen h h' hscreen]
  screen := ((screen_showing d next).trans hscreen).trans (screen_showing d' next').symm
  tidy := tidy_showing d next
  tidy' := tidy_showing d' next'

lemma reviseFile_matched (hd : d.Tidy) (hd' : d'.Tidy) (hshown : d.screen = d'.screen)
    (hscreen : next.screen = next'.screen) (p : Path) :
    (d.reviseFile next p).Matched (d'.reviseFile next' p) where
  filled := by rw [filled_reviseFile, filled_reviseFile, hscreen]
  screen := by rw [screen_reviseFile, screen_reviseFile, hshown, hscreen]
  tidy := hd.recordAll _
  tidy' := hd'.recordAll _

/-- In a tidy display, what is shown tells which list a file has. -/
lemma Tidy.diagnostics?_eq (h : d.Tidy) (p : Path) :
    d.diagnostics? p = if d.screen p = [] then none else some (d.screen p) := by
  rw [screen]
  cases hl : d.diagnostics? p with
  | none => rfl
  | some l =>
    have hne : l ≠ [] := fun hnil => h p (hnil ▸ diagnostics?_eq_some_iff.1 hl)
    simp [hne]

end Display

/-! ## Twins -/

namespace Session

/-- Two sessions that differ in what happens to files without violations, and show the same. -/
structure Twins (s s' : Session) : Prop where
  settings : ∃ policy, s'.settings = s.settings.withEmptyRecords policy
  lastTarget : s.lastTarget = s'.lastTarget
  screen : s.display.screen = s'.display.screen
  tidy : s.display.Tidy
  tidy' : s'.display.Tidy

lemma twins_start (settings : Settings) (policy policy' : EmptyPolicy) :
    Twins (.start (settings.withEmptyRecords policy))
      (.start (settings.withEmptyRecords policy')) where
  settings := ⟨policy', rfl⟩
  lastTarget := rfl
  screen := rfl
  tidy := Display.tidy_empty
  tidy' := Display.tidy_empty

variable {s s' : Session} {w w' : σ}

namespace Twins

/-- Twins show the same lists in the same files. -/
lemma diagnostics?_eq (h : Twins s s') (p : Path) :
    s.display.diagnostics? p = s'.display.diagnostics? p := by
  rw [h.tidy.diagnostics?_eq, h.tidy'.diagnostics?_eq, h.screen]

lemma isDirty_eq (h : Twins s s') (p : Path) : s.display.isDirty p = s'.display.isDirty p := by
  rw [Display.isDirty, Display.isDirty, h.diagnostics?_eq]

lemma aim (h : Twins s s') (target : Option Path) : Twins (s.aim target) (s'.aim target) where
  settings := h.settings
  lastTarget := rfl
  screen := h.screen
  tidy := h.tidy
  tidy' := h.tidy'

/-- Twins find runs that show the same, or fail in the same way. -/
lemma attempt (h : Twins s s') (hw : host.Alike w w') (target : Path) (autofix : Bool) :
    let result := (s.attempt host target autofix w).result
    let result' := (s'.attempt host target autofix w').result
    (∃ e, result = .error e ∧ result' = .error e) ∨
      ∃ set set' : DiagnosticSet, result = .ok set ∧ result' = .ok set' ∧ set.Plain ∧ set'.Plain ∧
        set.screen = set'.screen := by
  obtain ⟨policy, hsettings⟩ := h.settings
  have hresolve : Project.resolve (host.isFile w') target s'.settings.configFiles s'.settings.tool =
      Project.resolve (host.isFile w) target s.settings.configFiles s.settings.tool := by
    rw [hw.files, hsettings]
    rfl
  cases hproject : Project.resolve (host.isFile w) target s.settings.configFiles
      s.settings.tool with
  | error e =>
    rw [hproject] at hresolve
    simp only [Session.attempt, hproject, hresolve]
    exact .inl ⟨e, rfl, rfl⟩
  | ok project =>
    let call := Invocation.make project.tool project.config [target] project.root autofix
    have hanswer : (host.run call w').1 = (host.run call w).1 := (hw.answers call).symm
    rw [attempt_result host s target autofix w hproject,
      attempt_result host s' target autofix w' (hresolve.trans hproject), hanswer, reading_eq,
      reading_eq]
    cases reportsOf (host.run call w).1 with
    | error e => exact .inl ⟨e, rfl, rfl⟩
    | ok reports =>
      refine .inr ⟨_, _, rfl, rfl, DiagnosticSet.plain_ofReports reports,
        DiagnosticSet.plain_ofReports reports, ?_⟩
      funext p
      rw [DiagnosticSet.screen_ofReports, DiagnosticSet.screen_ofReports, hsettings]
      rfl

end Twins

end Session

/-! ## Steps that match -/

/-- Two results are the same, or both say that all was published. -/
inductive SameEnd : Except Failure Outcome → Except Failure Outcome → Prop
  | same (result : Except Failure Outcome) : SameEnd result result
  | published (updated cleared updated' cleared' : Nat) :
      SameEnd (.ok (.published updated cleared)) (.ok (.published updated' cleared'))

namespace SameEnd

variable {result result' : Except Failure Outcome}

lemma error_iff (h : SameEnd result result') (e : Failure) :
    result = .error e ↔ result' = .error e := by
  cases h <;> simp

lemma skipped_iff (h : SameEnd result result') (reason : SkipReason) :
    result = .ok (.skipped reason) ↔ result' = .ok (.skipped reason) := by
  cases h <;> simp

lemma excused (h : SameEnd result result') :
    SameEnd (Session.excused result) (Session.excused result') := by
  cases h with
  | same => exact .same _
  | published => exact .published ..

end SameEnd

/-- Two steps have the same end, lead to twins, and have sent the same publications, apart from
those that clear a file. -/
structure Step.Matched (step step' : Step σ) : Prop where
  ending : SameEnd step.result step'.result
  twins : Session.Twins step.session step'.session
  sent : (step.sent.filter fun p => !p.isClear) = step'.sent.filter fun p => !p.isClear

namespace Session

variable {s s' : Session} {w w' : σ} {step step' : Step σ}

namespace Twins

lemma accepts_eq (h : Twins s s') (p : Path) : s.settings.accepts p = s'.settings.accepts p := by
  obtain ⟨policy, hsettings⟩ := h.settings
  rw [hsettings]
  rfl

lemma skip_matched (h : Twins s s') (reason : SkipReason) (notes : List Note) :
    (s.skip reason notes w).Matched (s'.skip reason notes w') :=
  ⟨.same _, h, rfl⟩

lemma fail_matched (h : Twins s s') (e : Failure) : (s.fail e w).Matched (s'.fail e w') :=
  ⟨.same _, h, rfl⟩

/-- The publications of twins only differ in those that clear a file if their changes do. -/
lemma sent_eq (h : Twins s s') {r r' : Revision} (hr : r.Matched r') :
    ((r.changes.map s.message).filter fun p => !p.isClear) =
      (r'.changes.map s'.message).filter fun p => !p.isClear := by
  let publication (e : Path × List Diagnostic) : Publication := s.publication e.1 e.2
  have hfilter (changes : List Change) :
      ((changes.map s.message).filter fun p => !p.isClear) =
        ((changes.map Change.content).filter fun e => !e.2.isEmpty).map publication := by
    have hmap : changes.map s.message = (changes.map Change.content).map publication := by
      rw [List.map_map]
      rfl
    rw [hmap, List.filter_map]
    rfl
  have hmessage : s'.message = s.message := by
    obtain ⟨policy, hsettings⟩ := h.settings
    funext c
    rw [message, message, Session.publication, Session.publication, hsettings]
    rfl
  rw [hmessage, hfilter, hfilter, hr.filled]

lemma send_matched (haccepting : host.Accepting) (h : Twins s s') {r r' : Revision}
    (hr : r.Matched r') (a a' : Attempt σ) : (s.send host a r).Matched (s'.send host a' r') := by
  obtain ⟨hresult, hsession, hsent⟩ := send_of_accepting haccepting s a r
  obtain ⟨hresult', hsession', hsent'⟩ := send_of_accepting haccepting s' a' r'
  constructor
  · rw [hresult, hresult']
    exact .published ..
  · rw [hsession, hsession']
    exact ⟨h.settings, h.lastTarget, hr.screen, hr.tidy, hr.tidy'⟩
  · rw [hsent, hsent']
    exact h.sent_eq hr

/-- Twins lint a target in the same way, if their ways to runs that show the same do not differ but
in empty lists. -/
lemma lintTarget_matched (haccepting : host.Accepting) (h : Twins s s') (hw : host.Alike w w')
    (target : Path) (autofix : Bool) {way way' : DiagnosticSet → Revision}
    (hway : ∀ set set' : DiagnosticSet, set.Plain → set'.Plain → set.screen = set'.screen →
      (way set).Matched (way' set')) :
    (s.lintTarget host target autofix way w).Matched
      (s'.lintTarget host target autofix way' w') := by
  have haim := h.aim (some target)
  rw [lintTarget, lintTarget]
  rcases haim.attempt hw target autofix with
    ⟨e, he, he'⟩ | ⟨set, set', hset, hset', hplain, hplain', hscreen⟩
  · simp only [he, he']
    exact ⟨.same _, haim, rfl⟩
  · simp only [hset, hset']
    exact haim.send_matched haccepting (hway set set' hplain hplain' hscreen) _ _

lemma lintFile_matched (haccepting : host.Accepting) (h : Twins s s') (hw : host.Alike w w')
    (p : Path) : (s.lintFile host p w).Matched (s'.lintFile host p w') := by
  by_cases haccepts : s.settings.accepts p = true
  · have haccepts' : s'.settings.accepts p = true := h.accepts_eq p ▸ haccepts
    cases htarget : Path.absolute (host.workingDirectory w) p with
    | error reason =>
      rw [lintFile, lintFile, if_pos haccepts, if_pos haccepts', ← hw.directory,
        htarget]
      exact h.fail_matched _
    | ok target =>
      rw [lintFile_eq haccepts htarget, lintFile_eq haccepts' (hw.directory ▸ htarget)]
      exact h.lintTarget_matched haccepting hw target false fun set set' _ _ hscreen =>
        Display.reviseFile_matched h.tidy h.tidy' h.screen hscreen target
  · have haccepts' : ¬s'.settings.accepts p = true := h.accepts_eq p ▸ haccepts
    rw [lintFile, lintFile, if_neg haccepts, if_neg haccepts']
    exact h.skip_matched _ _

lemma lintProject_matched (haccepting : host.Accepting) (h : Twins s s') (hw : host.Alike w w')
    (p : Path) (autofix : Bool) :
    (s.lintProject host p autofix w).Matched (s'.lintProject host p autofix w') := by
  cases htarget : Path.absolute (host.workingDirectory w) p with
  | error reason =>
    rw [lintProject, lintProject, ← hw.directory, htarget]
    exact h.fail_matched _
  | ok target =>
    rw [lintProject_eq htarget, lintProject_eq (hw.directory ▸ htarget)]
    exact h.lintTarget_matched haccepting hw target autofix fun set set' hplain hplain' hscreen =>
      Display.revise_matched hplain hplain' hscreen

lemma fix_matched (haccepting : host.Accepting) (h : Twins s s') (hw : host.Alike w w') :
    (s.fix host w).Matched (s'.fix host w') := by
  rw [fix, fix, ← h.lastTarget]
  cases s.lastTarget with
  | none => exact h.skip_matched _ _
  | some target =>
    have hlint := h.lintProject_matched haccepting hw target true
    exact ⟨hlint.ending, hlint.twins, hlint.sent⟩

end Twins

/-- Excusing changes neither the session nor what was sent. -/
lemma matched_excuse (h : step.Matched step') : (excuse step).Matched (excuse step') := by
  constructor
  · rw [excuse_result, excuse_result]
    exact h.ending.excused
  · simpa using h.twins
  · simpa using h.sent

namespace Twins

lemma lintBuffer_matched (haccepting : host.Accepting) (h : Twins s s') (hw : host.Alike w w')
    (filePath : Option Path) :
    (s.lintBuffer host filePath w).Matched (s'.lintBuffer host filePath w') := by
  cases filePath with
  | none => exact h.skip_matched _ _
  | some p => exact matched_excuse (h.lintFile_matched haccepting hw p)

lemma handle_matched (haccepting : host.Accepting) (h : Twins s s') (hw : host.Alike w w')
    (event : Event) : (s.handle host event w).Matched (s'.handle host event w') := by
  cases event with
  | bufferSaved filePath => exact h.lintBuffer_matched haccepting hw filePath
  | bufferEnter filePath => exact h.lintBuffer_matched haccepting hw filePath
  | command name =>
    rw [handle, handle]
    split
    · exact matched_excuse (h.fix_matched haccepting hw)
    · exact h.skip_matched _ _

end Twins

/-- Whatever twins are asked to do, they do what matches, and remain twins. -/
theorem perform_matched (haccepting : host.Accepting) (h : Twins s s') (hw : host.Alike w w')
    (op : Operation) : (s.perform host op w).Matched (s'.perform host op w') := by
  cases op with
  | handle event => exact h.handle_matched haccepting hw event
  | lintFile p => exact h.lintFile_matched haccepting hw p
  | lintProject p autofix => exact h.lintProject_matched haccepting hw p autofix
  | fix => exact h.fix_matched haccepting hw

end Session

/-! ## Histories of twins -/

lemma Host.Accepting.watched (h : host.Accepting) : host.watched.Accepting := by
  intro p w
  have hnone := h p w.world
  simp only [Host.watched]
  rcases hp : host.publish p w.world with ⟨_ | e, world⟩
  · rfl
  · rw [hp] at hnone
    exact hnone

lemma Host.Alike.watched {w w' : σ} (h : host.Alike w w') (log log' : List Contact) :
    host.watched.Alike ⟨w, log⟩ ⟨w', log'⟩ :=
  ⟨h.directory, h.files, h.answers⟩

/-- The surroundings of a rehearsal in which the editor never goes away. -/
def Rehearsal.patient : Host Rehearsal := { Rehearsal.host with publish := fun _ w => (none, w) }

lemma Rehearsal.accepting_patient : Rehearsal.patient.Accepting := fun _ _ => rfl

namespace History

/-- Alike calls keep twins. -/
lemma twins_after (haccepting : host.Accepting) (settings : Settings) (policy policy' : EmptyPolicy)
    {calls calls' : List (Call σ)} (hcalls : List.Forall₂ (Call.Alike host) calls calls') :
    Session.Twins (after host (settings.withEmptyRecords policy) calls).session
      (after host (settings.withEmptyRecords policy') calls').session := by
  rw [after, after]
  generalize hstart : (⟨.start (settings.withEmptyRecords policy), []⟩ : History) = h
  generalize hstart' : (⟨.start (settings.withEmptyRecords policy'), []⟩ : History) = h'
  have htwins : Session.Twins h.session h'.session := by
    rw [← hstart, ← hstart']
    exact Session.twins_start settings policy policy'
  clear hstart hstart'
  -- on the calls of both sides at once, from any histories of twins
  induction hcalls generalizing h h' with
  | nil => exact htwins
  | @cons c c' rest rest' hc hrest ih =>
    refine ih (h.next host c) (h'.next host c') ?_
    rw [next, next, ← hc.operation]
    exact (Session.perform_matched haccepting.watched htwins (hc.world.watched h.log h'.log)
      c.operation).twins

/-- In one more call after any others, a file that is dirty before and not afterwards is sent the
empty list, once, and nothing else. -/
lemma cleared_perform (host : Host σ) (settings : Settings) (calls : List (Call σ)) (op : Operation)
    (w : σ) {p : Path} :
    let s := (after host settings calls).session
    let step := s.perform host.watched op ⟨w, []⟩
    s.display.isDirty p = true → step.session.display.isDirty p = false →
      ∃ q, about p ((taken step.world.log).map Publication.content) = [(q, [])] := by
  intro s step hdirty hnow
  obtain ⟨result, contacts, htakes, -⟩ := s.perform_takes host ⟨w, []⟩ op
  have hlog : step.world.log = contacts := htakes.log_eq
  rw [hlog]
  exact htakes.course.cleared (faithful_after host settings calls).replays.tidy hdirty hnow

/-- **Files without violations are never seen.**  Take two sessions whose settings only differ in
what happens to files without violations.  Let both go through calls of the same operations, in
surroundings that are alike, with an editor that takes everything.  In any further such call they
show the same lists in the same files, they fail or are skipped in the same way, and they send the
same publications in the same order, apart from those that clear a file.  And a file that was dirty
and is not any more has been sent the empty list by both, once, and nothing else. -/
theorem empty_reports_unseen (haccepting : host.Accepting) (settings : Settings)
    (policy policy' : EmptyPolicy) {calls calls' : List (Call σ)}
    (hcalls : List.Forall₂ (Call.Alike host) calls calls') {c c' : Call σ}
    (hc : c.Alike host c') :
    let s := (after host (settings.withEmptyRecords policy) calls).session
    let s' := (after host (settings.withEmptyRecords policy') calls').session
    let step := s.perform host.watched c.operation ⟨c.world, []⟩
    let step' := s'.perform host.watched c'.operation ⟨c'.world, []⟩
    let sent := taken step.world.log
    let sent' := taken step'.world.log
    (∀ p, step.session.display.diagnostics? p = step'.session.display.diagnostics? p) ∧
    (∀ e, step.result = .error e ↔ step'.result = .error e) ∧
    (∀ reason, step.result = .ok (.skipped reason) ↔ step'.result = .ok (.skipped reason)) ∧
    (sent.filter fun p => !p.isClear) = (sent'.filter fun p => !p.isClear) ∧
    (∀ p, s.display.isDirty p = s'.display.isDirty p ∧
      (s.display.isDirty p = true → step.session.display.isDirty p = false →
        (∃ q, about p (sent.map Publication.content) = [(q, [])]) ∧
          ∃ q, about p (sent'.map Publication.content) = [(q, [])])) := by
  intro s s' step step' sent sent'
  have htwins : Session.Twins s s' := twins_after haccepting settings policy policy' hcalls
  have hmatched : step.Matched step' := by
    simp only [step, step']
    rw [← hc.operation]
    exact Session.perform_matched haccepting.watched htwins (hc.world.watched [] []) c.operation
  have hshown := hmatched.twins.diagnostics?_eq
  refine ⟨hshown, hmatched.ending.error_iff, hmatched.ending.skipped_iff, ?_, fun p => ?_⟩
  · have hsent : sent = step.sent := s.taken_perform host c.operation c.world
    have hsent' : sent' = step'.sent := s'.taken_perform host c'.operation c'.world
    rw [hsent, hsent', hmatched.sent]
  · have hbefore : s.display.isDirty p = s'.display.isDirty p := htwins.isDirty_eq p
    refine ⟨hbefore, fun hdirty hnow => ⟨?_, ?_⟩⟩
    · exact cleared_perform host _ calls c.operation c.world hdirty hnow
    · have hnow' : step'.session.display.isDirty p = false := hmatched.twins.isDirty_eq p ▸ hnow
      exact cleared_perform host _ calls' c'.operation c'.world (hbefore ▸ hdirty) hnow'

/-- A rehearsal in which two files are reported, and then a third one, which has no violations.  One
of the sessions keeps this file, the other has never heard of it. -/
theorem empty_reports_unseen_rehearsed :
    let settings : Settings := {}
    let lint := Operation.lintProject ⟨"a.js"⟩ false
    let first : Call Rehearsal := ⟨lint, ⟨[Rehearsal.complaints], 0⟩⟩
    let c : Call Rehearsal := ⟨lint, ⟨[Rehearsal.relief], 0⟩⟩
    let s := (after Rehearsal.patient (settings.withEmptyRecords .retain) [first]).session
    let s' := (after Rehearsal.patient (settings.withEmptyRecords .drop) [first]).session
    let step := s.perform Rehearsal.patient.watched c.operation ⟨c.world, []⟩
    let step' := s'.perform Rehearsal.patient.watched c.operation ⟨c.world, []⟩
    let lists := (taken step.world.log).map Publication.content
    let lists' := (taken step'.world.log).map Publication.content
    lists = [(⟨"/p/c.js"⟩, []), (⟨"/p/a.js"⟩, []), (⟨"/p/b.js"⟩, [])] ∧
      lists' = [(⟨"/p/a.js"⟩, []), (⟨"/p/b.js"⟩, [])] ∧
      (∀ p, step.session.display.diagnostics? p = step'.session.display.diagnostics? p) ∧
      (∃ q, about ⟨"/p/b.js"⟩ lists = [(q, [])]) ∧ ∃ q, about ⟨"/p/b.js"⟩ lists' = [(q, [])] := by
  intro settings lint first c s s' step step' lists lists'
  obtain ⟨hlists, hlists', hdirty, hnow⟩ :
      lists = [(⟨"/p/c.js"⟩, []), (⟨"/p/a.js"⟩, []), (⟨"/p/b.js"⟩, [])] ∧
        lists' = [(⟨"/p/a.js"⟩, []), (⟨"/p/b.js"⟩, [])] ∧
        s.display.isDirty ⟨"/p/b.js"⟩ = true ∧
        step.session.display.isDirty ⟨"/p/b.js"⟩ = false := by
    decide +kernel
  have hlaw := empty_reports_unseen Rehearsal.accepting_patient settings .retain .drop
    (.cons (.refl first) .nil) (.refl c)
  dsimp only at hlaw
  have hs : (after Rehearsal.patient (settings.withEmptyRecords .retain) [first]).session = s := rfl
  have hs' : (after Rehearsal.patient (settings.withEmptyRecords .drop) [first]).session = s' := rfl
  have hstep : s.perform Rehearsal.patient.watched lint ⟨c.world, []⟩ = step := rfl
  have hstep' : s'.perform Rehearsal.patient.watched lint ⟨c.world, []⟩ = step' := rfl
  -- the sessions are not to be computed once more
  clear_value s s' step step'
  rw [hs, hs', hstep, hstep'] at hlaw
  obtain ⟨hshown, -, -, -, hclears⟩ := hlaw
  exact ⟨hlists, hlists', hshown, (hclears _).2 hdirty hnow⟩

end History

end LintBridge
