/-
# Linting a file and linting its project

For the file itself it makes no difference whether it is linted alone or with all files that are
reported for it: the editor is sent the same and shows the same in it.  There is one exception.  A
file that is not in the run and that the editor was never sent is cleared when it is linted alone,
and not heard of when its project is linted.

* `Display.Tidy.latest_revise`: what is sent for the file, on either way to the run.
* `Session.Agreement`: what both have in common, and `Session.lintTarget_agreement`: they have it in
  every session with a tidy display whose files are entered in their plainest spelling.
* `History.plain_after`: all files of a display are entered in their plainest spelling.
* `History.lintFile_agrees`: the law.
* `History.silent_report_disagrees`: a file that is reported without violations is not in the run if
  the user has such files left out.
-/
import LintBridge.Proofs.Display.Within
import LintBridge.Proofs.Session.EmptyReports

namespace LintBridge

variable {σ τ : Type}

/-! ## What is sent for a file -/

/-- In a list without two entries for one path, that of a path in its plainest spelling is the
latest one. -/
lemma about_eq_latest {α : Type} {l : List (Path × α)} {p : Path} (h : Distinct l)
    (hplain : ∀ e ∈ l, e.1.Plain) (hp : p.Plain) :
    about p l = ((latest p l).map fun x => (p, x)).toList := by
  rcases hl : about p l with _ | ⟨e, rest⟩
  · rw [latest, hl]
    rfl
  · obtain ⟨he, hs⟩ := mem_about.1 (hl ▸ List.mem_cons_self : e ∈ about p l)
    obtain rfl : e.1 = p := (hplain e he).eq_of_same hp hs
    rw [← hl, latest, about_eq_singleton h he hs]
    rfl

namespace Display

variable {d : Display} {next : DiagnosticSet} {p q : Path}

/-- What is sent on the way to a run in one file. -/
lemma latest_reviseFile (d : Display) (next : DiagnosticSet) (p : Path) :
    latest p ((d.reviseFile next p).changes.map Change.content) =
      if d.needsPublish p (next.screen p) = true then some (next.screen p) else none := by
  rw [reviseFile, DiagnosticSet.screen]
  split
  next => simp [latest, about, Change.content, Path.Same.refl]
  next => rfl

/-- Both ways send the same for a file that is in the run or was published before. -/
lemma Tidy.latest_revise (h : d.Tidy)
    (hknown : next.contains p = true ∨ d.files.contains p = true) :
    latest p ((d.revise next).changes.map Change.content) =
      latest p ((d.reviseFile next p).changes.map Change.content) := by
  rw [latest_changes, latest_reviseFile, DiagnosticSet.screen]
  cases hl : next.find? p with
  | some l => rfl
  | none =>
    have hnext : next.contains p = false := PathMap.contains_eq_false_iff.2 hl
    have hd : d.files.contains p = true :=
      hknown.resolve_left fun hp => Bool.false_ne_true (hnext.symm.trans hp)
    simp [h.isDirty_eq_not_isClean hd, needsPublish]

/-- Both ways lead to the same in a file for which they send the same. -/
lemma Tidy.find?_revise (h : d.Tidy)
    (hknown : next.contains p = true ∨ d.files.contains p = true) :
    (d.revise next).display.files.find? p = (d.reviseFile next p).display.files.find? p := by
  have hall : (d.revise next).display.Agrees _ := Way.agrees (.inl rfl) h
  have hone : (d.reviseFile next p).display.Agrees _ := Way.agrees (.inr ⟨p, rfl⟩) h
  rw [hall p, hone p, apply, apply, find?_recordAll, find?_recordAll, h.latest_revise hknown]

/-- Any other file is cleared on the one way, and left out on the other. -/
lemma revise_unknown (hnext : next.contains p = false) (hd : d.files.contains p = false) :
    (d.reviseFile next p).changes = [⟨p, [], false⟩] ∧
      (d.reviseFile next p).display.isClean p = true ∧
      latest p ((d.revise next).changes.map Change.content) = none ∧
      (d.revise next).display.files.contains p = false := by
  have hl : next.find? p = none := PathMap.contains_eq_false_iff.1 hnext
  have hfound : d.files.find? p = none := PathMap.contains_eq_false_iff.1 hd
  have hchanges : (d.reviseFile next p).changes = [⟨p, [], false⟩] := by
    simp [reviseFile, hl, needsPublish, isClean, hfound]
  refine ⟨hchanges, ?_, ?_, ?_⟩
  · have hdisplay : (d.reviseFile next p).display = d.apply (d.reviseFile next p).changes := rfl
    rw [hdisplay, hchanges, isClean_iff]
    exact (find?_record d p p []).trans (if_pos (.refl p))
  · rw [latest_changes, hl]
    simp [isDirty, diagnostics?, hfound]
  · rw [PathMap.contains_eq_false_iff, revise, find?_showing, hl]
    simp [hd]

end Display

/-! ## All files are entered in their plainest spelling -/

lemma Path.plain_absolute {cwd : Except String Path} {p target : Path}
    (h : absolute cwd p = .ok target) : target.Plain := by
  obtain ⟨base, -, rfl⟩ := eq_normalize_of_absolute h
  exact plain_normalize base p

namespace Session

variable {host : Host σ} {s : Session} {w : σ} {p target : Path} {autofix : Bool}
  {way : DiagnosticSet → Revision}

/-- Some first changes are delivered. -/
lemma delivered_first (host : Host σ) (s : Session) (changes : List Change) (w : σ) :
    (s.deliver host changes w).delivered <+: changes := by
  induction changes generalizing w with
  | nil => exact List.prefix_refl _
  | cons c rest ih =>
    rw [deliver]
    rcases host.publish (s.publication c.path c.diagnostics) w with ⟨_ | e, world⟩
    · exact List.prefix_cons_inj c |>.2 (ih world)
    · exact List.nil_prefix

/-- What holds of all files of a display and of a way is kept when the way is sent. -/
lemma within_send {P : Path → Prop} (h : s.display.Within P) {r : Revision} (hr : r.Within P)
    (a : Attempt σ) : (s.send host a r).session.display.Within P := by
  rw [send]
  split
  next =>
    refine h.apply fun c hc => hr.changes c ?_
    exact (delivered_first host s r.changes a.world).subset hc
  next => exact hr.display

/-- Linting a target keeps the plainest spelling of all files, if the way to the run does. -/
lemma plain_lintTarget (h : s.display.Within Path.Plain)
    (hway : ∀ set : DiagnosticSet, set.Plain → (way set).Within Path.Plain) :
    (s.lintTarget host target autofix way w).session.display.Within Path.Plain := by
  rw [lintTarget]
  cases hset : ((s.aim (some target)).attempt host target autofix w).result with
  | error e => exact h
  | ok set =>
    obtain ⟨project, reports, -, -, rfl⟩ := attempt_ok hset
    have hset : (way (.ofReports s.settings.conversion project.root reports)).Within Path.Plain :=
      hway _ (DiagnosticSet.plain_ofReports reports)
    exact within_send (s := s.aim (some target)) h hset _

lemma plain_perform (h : s.display.Within Path.Plain) (host : Host σ) (op : Operation) (w : σ) :
    (s.perform host op w).session.display.Within Path.Plain := by
  rcases perform_lints host s op w with
    ⟨hsession, -⟩ | ⟨p, target, autofix, way, habsolute, hway, hsession, -⟩ <;> rw [hsession]
  · exact h
  · rcases hway with ⟨-, rfl⟩ | ⟨-, rfl⟩
    · exact plain_lintTarget h fun set _ => h.reviseFile (Path.plain_absolute habsolute) set
    · exact plain_lintTarget h fun set hset => h.revise hset

/-! ## Linting a target -/

/-- If the editor takes everything, then linting a target fails before anything is sent, or all
changes on the way to the reports of the lint tool are sent.  Which of both is the case does not
depend on the way. -/
lemma lintTarget_of_accepting (haccepting : host.Accepting) (s : Session) (target : Path)
    (autofix : Bool) (w : σ) :
    (∃ e, ∀ way, let step := s.lintTarget host target autofix way w
      step.result = .error e ∧ step.session = s.aim (some target) ∧ step.sent = []) ∨
    ∃ project reports,
      Project.resolve (host.isFile w) target s.settings.configFiles s.settings.tool = .ok project ∧
      reportsOf (host.run (.make project.tool project.config [target] project.root autofix) w).1 =
        .ok reports ∧
      ∀ way, let step := s.lintTarget host target autofix way w
        let r := way (.ofReports s.settings.conversion project.root reports)
        step.result = .ok (.published r.updated r.cleared) ∧
          step.session = (s.aim (some target)).withDisplay r.display ∧
          step.sent = r.changes.map s.message := by
  cases hfinding : s.finding host target autofix w with
  | error e => exact .inl ⟨e, fun way => lintTarget_of_error hfinding⟩
  | ok set =>
    obtain ⟨project, reports, hproject, hreports, rfl⟩ := attempt_ok hfinding
    refine .inr ⟨project, reports, hproject, hreports, fun way => ?_⟩
    exact lintTarget_of_ok haccepting hfinding

end Session

/-- The publications for a file that a step has sent, under any spelling. -/
def Step.sentFor (step : Step σ) (p : Path) : List Publication :=
  step.sent.filter fun m => m.path.Same p

/-- What linting a target alone and linting it with all files have in common if the target is known,
and what becomes of it if it is not. -/
structure Session.Agreement (s : Session) (target : Path) (known : Prop) (one all : Step σ) :
    Prop where
  shown : known →
    one.session.display.files.find? target = all.session.display.files.find? target
  sent : known → one.sentFor target = all.sentFor target
  cleared : ¬known → one.sentFor target = [s.publication target []] ∧
    one.session.display.isClean target = true
  unheard : ¬known → all.sentFor target = [] ∧ all.session.display.files.contains target = false
  only : ∀ m ∈ one.sent, m.path = target
  others : ∀ q, ¬q.Same target → one.session.display.files.find? q = s.display.files.find? q

namespace Session

variable {s : Session} {target : Path}

/-- The publications for a file, in terms of the changes that are sent. -/
lemma filter_message (s : Session) (changes : List Change) (p : Path) :
    ((changes.map s.message).filter fun m => m.path.Same p) =
      (about p (changes.map Change.content)).map fun e => s.publication e.1 e.2 := by
  rw [about, List.filter_map, List.filter_map, List.map_map]
  rfl

/-- When all changes on a way are sent, the latest list of a file is what is sent for it. -/
lemma sentFor_eq (htarget : target.Plain) {next : DiagnosticSet} {r : Revision}
    (hway : s.display.Way next r) (hr : r.Within Path.Plain) {step : Step σ}
    (hsent : step.sent = r.changes.map s.message) :
    step.sentFor target =
      ((latest target (r.changes.map Change.content)).map (s.publication target)).toList := by
  rw [Step.sentFor, hsent, filter_message,
    about_eq_latest hway.distinct (List.forall_mem_map.2 hr.changes) htarget]
  cases latest target (r.changes.map Change.content) <;> rfl

/-- The two ways to a run agree on a target that is in the run or was published before. -/
lemma agreement_of_ways (htidy : s.display.Tidy) (hplain : s.display.Within Path.Plain)
    (htarget : target.Plain) {set : DiagnosticSet} (hset : set.Plain) {one all : Step σ}
    (hone : one.session.display = (s.display.reviseFile set target).display)
    (honeSent : one.sent = (s.display.reviseFile set target).changes.map s.message)
    (hall : all.session.display = (s.display.revise set).display)
    (hallSent : all.sent = (s.display.revise set).changes.map s.message) :
    s.Agreement target (set.contains target = true ∨ s.display.files.contains target = true)
      one all := by
  have honeFor := sentFor_eq htarget (.inr ⟨target, rfl⟩) (hplain.reviseFile htarget set) honeSent
  have hallFor := sentFor_eq htarget (.inl rfl) (hplain.revise hset) hallSent
  have hunknown (h : ¬(set.contains target = true ∨ s.display.files.contains target = true)) :=
    Display.revise_unknown (Bool.not_eq_true _ ▸ (not_or.1 h).1)
      (Bool.not_eq_true _ ▸ (not_or.1 h).2)
  refine ⟨fun h => ?_, fun h => ?_, fun h => ⟨?_, ?_⟩, fun h => ⟨?_, ?_⟩, fun m hm => ?_,
    fun q hq => ?_⟩
  · rw [hone, hall, htidy.find?_revise h]
  · rw [honeFor, hallFor, htidy.latest_revise h]
  · rw [honeFor, (hunknown h).1]
    simp [latest, about, Change.content, Path.Same.refl]
  · rw [hone, (hunknown h).2.1]
  · rw [hallFor, (hunknown h).2.2.1]
    rfl
  · rw [hall, (hunknown h).2.2.2]
  · rw [honeSent] at hm
    obtain ⟨c, hc, rfl⟩ := List.mem_map.1 hm
    rw [(Display.mem_reviseFile hc).1]
    rfl
  · rw [hone, Display.find?_reviseFile, if_neg fun hs => hq hs.symm]

/-- Both ways of linting a target fail alike, or agree on the target. -/
lemma lintTarget_agreement {host : Host σ} (haccepting : host.Accepting) (htidy : s.display.Tidy)
    (hplain : s.display.Within Path.Plain) (htarget : target.Plain) (w : σ) :
    let one := s.lintTarget host target false (fun set => s.display.reviseFile set target) w
    let all := s.lintTarget host target false s.display.revise w
    (∃ e, one.result = .error e ∧ all.result = .error e ∧ one.sent = [] ∧ all.sent = [] ∧
      one.session = all.session ∧ one.session.display = s.display) ∨
    ∃ project reports updated updated' cleared cleared',
      Project.resolve (host.isFile w) target s.settings.configFiles s.settings.tool = .ok project ∧
      reportsOf (host.run (.make project.tool project.config [target] project.root false) w).1 =
        .ok reports ∧
      one.result = .ok (.published updated cleared) ∧
      all.result = .ok (.published updated' cleared') ∧
      s.Agreement target
        ((DiagnosticSet.ofReports s.settings.conversion project.root reports).contains target =
          true ∨ s.display.files.contains target = true) one all := by
  intro one all
  rcases lintTarget_of_accepting haccepting s target false w with
    ⟨e, hfail⟩ | ⟨project, reports, hproject, hreports, hpublished⟩
  · obtain ⟨hresult, hsession, hsent⟩ := hfail fun set => s.display.reviseFile set target
    obtain ⟨hresult', hsession', hsent'⟩ := hfail s.display.revise
    have hdisplay : one.session.display = (s.aim (some target)).display :=
      congrArg Session.display hsession
    exact .inl ⟨e, hresult, hresult', hsent, hsent', hsession.trans hsession'.symm, hdisplay⟩
  · obtain ⟨hresult, hsession, hsent⟩ := hpublished fun set => s.display.reviseFile set target
    obtain ⟨hresult', hsession', hsent'⟩ := hpublished s.display.revise
    exact .inr ⟨project, reports, _, _, _, _, hproject, hreports, hresult, hresult',
      agreement_of_ways htidy hplain htarget (DiagnosticSet.plain_ofReports reports)
        (congrArg Session.display hsession) hsent (congrArg Session.display hsession') hsent'⟩

end Session

namespace History

/-- After any calls, all files of the display are entered in their plainest spelling. -/
lemma plain_after (host : Host σ) (settings : Settings) (calls : List (Call σ)) :
    (after host settings calls).session.display.Within Path.Plain := by
  induction calls using List.reverseRecOn with
  | nil => exact Display.within_empty
  | append_singleton calls c ih =>
    rw [after, List.foldl_append]
    exact Session.plain_perform ih host.watched c.operation _

/-- **For the file, both are the same.**  After any calls, with an editor that may have refused
publications then and takes everything now, let an accepted path be linted as a file, or as a
project without fixing.  Both call the lint tool in the same way.  Both fail for the same reason,
and nothing is sent or shown differently, or both are published.  In this case, if there is a report
on the target that counts, or the target was published before, then both show the same in the target
and have sent the same publications for it.  If neither is so, then linting the file has sent the
empty list for the target and shows it clean, and linting the project has sent nothing for it and
does not know it.  Linting the file sends nothing for other files, and leaves what is shown in them
alone. -/
theorem lintFile_agrees (past : Host τ) (settings : Settings) (calls : List (Call τ))
    {host : Host σ} (haccepting : host.Accepting) {p : Path} (haccepts : settings.accepts p = true)
    (w : σ) :
    let h := after past settings calls
    let s := h.session
    let one := s.lintFile host p w
    let all := s.lintProject host p false w
    one.runs = all.runs ∧
    ((∃ e, one.result = .error e ∧ all.result = .error e ∧ one.sent = [] ∧ all.sent = [] ∧
        one.session = all.session ∧ one.session.display = s.display) ∨
      ∃ target project reports updated updated' cleared cleared',
        Path.absolute (host.workingDirectory w) p = .ok target ∧
        Project.resolve (host.isFile w) target settings.configFiles settings.tool = .ok project ∧
        Session.reportsOf
          (host.run (.make project.tool project.config [target] project.root false) w).1 =
            .ok reports ∧
        one.result = .ok (.published updated cleared) ∧
        all.result = .ok (.published updated' cleared') ∧
        let reported := ∃ r ∈ reports,
          r.counts settings.conversion = true ∧ (r.key project.root).Same target
        s.Agreement target (reported ∨ latest target h.lists ≠ none) one all) := by
  intro h s one all
  have hfaithful : h.Faithful := faithful_after past settings calls
  have hplain : s.display.Within Path.Plain := plain_after past settings calls
  have hsettings : s.settings = settings := settings_after past settings calls
  clear_value h
  subst hsettings
  cases htarget : Path.absolute (host.workingDirectory w) p with
  | error reason =>
    have hone : one = s.fail (.io reason) w := by
      simp only [one, Session.lintFile, if_pos haccepts, htarget]
    have hall : all = s.fail (.io reason) w := by
      simp only [all, Session.lintProject, htarget]
    rw [hone, hall]
    exact ⟨rfl, .inl ⟨_, rfl, rfl, rfl, rfl, rfl, rfl⟩⟩
  | ok target =>
    have hone : one = s.lintTarget host target false _ w := Session.lintFile_eq haccepts htarget
    have hall : all = s.lintTarget host target false _ w := Session.lintProject_eq htarget
    rw [hone, hall]
    refine ⟨Session.runs_lintTarget.trans Session.runs_lintTarget.symm, ?_⟩
    rcases Session.lintTarget_agreement haccepting hfaithful.replays.tidy hplain
      (Path.plain_absolute htarget) w with hfail |
      ⟨project, reports, updated, updated', cleared, cleared', hproject, hreports, hresult,
        hresult', hagree⟩
    · exact .inl hfail
    · rw [DiagnosticSet.contains_ofReports_iff, hfaithful.replays.contains_iff] at hagree
      exact .inr ⟨target, project, reports, updated, updated', cleared, cleared', rfl, hproject,
        hreports, hresult, hresult', hagree⟩

/-- A rehearsal in which two files have been published, and the second one is linted again under
another spelling.  The lint tool only reports a third one, so the second one is cleared. -/
theorem lintFile_agrees_rehearsed :
    let lint := Operation.lintProject ⟨"a.js"⟩ false
    let h := after Rehearsal.host {} [⟨lint, ⟨[Rehearsal.complaints], 2⟩⟩]
    let p : Path := ⟨"src/..//b.js"⟩
    let target : Path := ⟨"/p/b.js"⟩
    let w : Rehearsal := ⟨[Rehearsal.relief], 0⟩
    let one := h.session.lintFile Rehearsal.patient p w
    let all := h.session.lintProject Rehearsal.patient p false w
    Rehearsal.patient.Accepting ∧ h.session.settings.accepts p = true ∧
      latest target h.lists ≠ none ∧
      one.sent.map Publication.content = [(target, [])] ∧
      all.sent.map Publication.content = [(⟨"/p/c.js"⟩, []), (⟨"/p/a.js"⟩, []), (target, [])] ∧
      one.runs = all.runs ∧
      one.session.display.files.find? target = all.session.display.files.find? target ∧
      one.sentFor target = all.sentFor target ∧ ∀ m ∈ one.sent, m.path = target := by
  intro lint h p target w one all
  obtain ⟨haccepts, hpublished, hone, hall, hresult⟩ :
      h.session.settings.accepts p = true ∧ latest target h.lists ≠ none ∧
        one.sent.map Publication.content = [(target, [])] ∧
        all.sent.map Publication.content =
          [(⟨"/p/c.js"⟩, []), (⟨"/p/a.js"⟩, []), (target, [])] ∧
        one.result = .ok (.published 1 0) := by
    decide +kernel
  have hlaw := lintFile_agrees Rehearsal.host {} [⟨lint, ⟨[Rehearsal.complaints], 2⟩⟩]
    Rehearsal.accepting_patient (p := p) (by decide +kernel) w
  have hh : after Rehearsal.host {} [⟨lint, ⟨[Rehearsal.complaints], 2⟩⟩] = h := rfl
  have hstep : h.session.lintFile Rehearsal.patient p w = one := rfl
  have hstep' : h.session.lintProject Rehearsal.patient p false w = all := rfl
  -- the rehearsal is not to be gone through once more
  clear_value h one all
  dsimp only at hlaw
  rw [hh, hstep, hstep'] at hlaw
  obtain ⟨hruns, ⟨e, hfail, -⟩ | ⟨target', _, _, _, _, _, _, habsolute, -, -, -, -, hagree⟩⟩ := hlaw
  · cases hresult.symm.trans hfail
  · have htarget : Path.absolute (Rehearsal.patient.workingDirectory w) p = .ok target := by
      decide +kernel
    obtain rfl : target = target' := Except.ok.inj (htarget.symm.trans habsolute)
    exact ⟨Rehearsal.accepting_patient, haccepts, hpublished, hone, hall, hruns,
      hagree.shown (.inr hpublished), hagree.sent (.inr hpublished), hagree.only⟩

/-- **A file that is reported without violations counts as absent if the user has such files left
out.**  The lint tool reports the target, which was never published.  Linting the file sends the
empty list for it, and linting the project does not. -/
theorem silent_report_disagrees :
    let settings : Settings := { emptyRecords := .drop }
    let answer : RunResult := ⟨some 0, "[\x7b\"filePath\":\"a.js\",\"messages\":[]\x7d]", ""⟩
    let h := after Rehearsal.host settings []
    let p : Path := ⟨"a.js"⟩
    let target : Path := ⟨"/p/a.js"⟩
    let w : Rehearsal := ⟨[answer], 0⟩
    let one := h.session.lintFile Rehearsal.patient p w
    let all := h.session.lintProject Rehearsal.patient p false w
    Rehearsal.patient.Accepting ∧ settings.accepts p = true ∧
      (∃ r : FileReport, Session.reportsOf (.ok answer) = .ok [r] ∧
        (r.key ⟨"/p"⟩).Same target) ∧
      one.sent = [h.session.publication target []] ∧ all.sent = [] ∧
      one.session.display.isClean target = true ∧
      all.session.display.files.contains target = false := by
  intro settings answer h p target w one all
  refine ⟨Rehearsal.accepting_patient, by decide +kernel, ⟨⟨"a.js", []⟩, ?_⟩, by decide +kernel⟩
  decide +kernel

end History

end LintBridge
