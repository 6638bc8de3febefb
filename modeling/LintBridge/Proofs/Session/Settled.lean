/-
# Every path is absolute and normal

The editor and the lint tool spell paths as they like, and the names of configuration files are
those of the settings.  Whatever a session that is driven by events remembers, keeps in its display
and offers to the editor is an absolute normal form all the same.

* `offered`: the publications that the editor was offered, whether it took them or not.
* `History.Sound`: the invariant of a history, which every event keeps.
* `History.settled_driven`: the law.

Reports are read as seen from the root of a project, so the root has to be absolute, too.  It is
found above the target, which for this reason has to be the path of a file and not the root of the
tree.
-/
import LintBridge.Proofs.Display.Within
import LintBridge.Proofs.Session.Places
import LintBridge.Proofs.Session.Target

namespace LintBridge

variable {σ : Type} {host : Host σ}

/-! ## What the editor was offered -/

/-- The publication that the editor was offered. -/
def Contact.offered? : Contact → Option Publication
  | ran _ _ => none
  | took p => some p
  | refused p _ => some p

/-- The publications in a log that the editor was offered. -/
def offered (log : List Contact) : List Publication := log.filterMap Contact.offered?

@[simp] lemma offered_append (log log' : List Contact) :
    offered (log ++ log') = offered log ++ offered log' :=
  List.filterMap_append ..

@[simp] lemma offered_ran (call : Invocation) (answer : Except Failure RunResult) :
    offered [.ran call answer] = [] := rfl

@[simp] lemma offered_refused (p : Publication) (e : Failure) : offered [.refused p e] = [p] := rfl

@[simp] lemma offered_map_took (s : Session) (changes : List Change) :
    offered (changes.map fun c => .took (s.message c)) = changes.map s.message := by
  induction changes with
  | nil => rfl
  | cons c rest ih => exact congrArg (s.message c :: ·) ih

/-! ## Targets -/

namespace Path

variable {p target : Path} {cwd : Except String Path}

/-- A settled path is its own normal form, whatever it is seen from. -/
lemma Settled.normalize_eq (h : p.Settled) (base : Path) : normalize base p = p := by
  have hne : p.text.isEmpty = false := isEmpty_of_isAbsolute h.isAbsolute
  exact Except.ok.inj ((absolute_ok hne base).symm.trans (h.absolute (.ok base)))

/-- A path that the lint tool can be run on: it is settled, and it is not the root. -/
structure Target (p : Path) : Prop where
  settled : p.Settled
  ne_root : p.components ≠ [.root]

/-- The absolute form of the path of a file is a target, in every directory that may be current. -/
lemma target_of_absolute {name : String} (hcwd : ∀ dir, cwd = .ok dir → dir.isAbsolute = true)
    (hname : p.fileName? = some name) (h : absolute cwd p = .ok target) : target.Target := by
  obtain ⟨base, hbase, rfl⟩ := exists_normalize_of_absolute hcwd h
  exact ⟨settled_normalize hbase p, components_normalize_ne_root hbase hname⟩

end Path

/-! ## Displays and revisions -/

/-- All files of a set have settled paths. -/
def DiagnosticSet.Settled (s : DiagnosticSet) : Prop := ∀ e ∈ s.toList, e.1.Settled

/-- The files of reports have settled paths if they are seen from an absolute directory. -/
lemma DiagnosticSet.settled_ofReports {base : Path} (h : base.isAbsolute = true)
    (o : ConversionOptions) (reports : List FileReport) : (ofReports o base reports).Settled := by
  intro e he
  obtain ⟨r, -, hkey⟩ := mem_ofReports he
  exact hkey ▸ Path.settled_normalize h ⟨r.filePath⟩

/-- All files of a display have settled paths. -/
def Display.Settled (d : Display) : Prop := ∀ p ∈ d.files.keys, p.Settled

/-- All files that are changed and all files that are shown afterwards have settled paths. -/
structure Revision.Settled (r : Revision) : Prop where
  changes : ∀ c ∈ r.changes, c.path.Settled
  display : r.display.Settled

namespace Display

variable {d : Display} {next : DiagnosticSet} {p : Path}

lemma Settled.apply {changes : List Change} (h : d.Settled)
    (hchanges : ∀ c ∈ changes, c.path.Settled) : (d.apply changes).Settled :=
  Within.apply h hchanges

lemma Settled.revise (h : d.Settled) (hnext : next.Settled) : (d.revise next).Settled :=
  have hr : (d.revise next).Within Path.Settled := Within.revise h hnext
  ⟨hr.changes, hr.display⟩

lemma Settled.reviseFile (h : d.Settled) (hp : p.Settled) (next : DiagnosticSet) :
    (d.reviseFile next p).Settled :=
  have hr : (d.reviseFile next p).Within Path.Settled := Within.reviseFile h hp next
  ⟨hr.changes, hr.display⟩

end Display

/-! ## The invariant -/

namespace History

/-- All paths that the session keeps and has offered are settled, and what it remembers is a
target. -/
structure Sound (h : History) : Prop where
  display : h.session.display.Settled
  offered : ∀ p ∈ offered h.log, p.path.Settled
  target : ∀ p, h.session.lastTarget = some p → p.Target

end History

/-- The history after a step. -/
def Step.history (step : Step (Watched σ)) : History := ⟨step.session, step.world.log⟩

namespace Session

open History (Sound)

variable {s : Session} {w : Watched σ} {target : Path} {autofix : Bool}
  {way : DiagnosticSet → Revision}

/-- Whatever the editor refuses, the changes of a settled revision are offered, and some of them are
kept. -/
lemma sound_send {a : Attempt (Watched σ)} {r : Revision} (h : Sound ⟨s, a.world.log⟩)
    (hr : r.Settled) : (s.send host.watched a r).history.Sound := by
  rcases deliver_cases host s a.world r.changes with
    ⟨hnone, hdelivered, hlog⟩ | ⟨c, rest, e, hsplit, hsome, -, hlog⟩
  · simp only [send, hnone, Step.history]
    refine ⟨hr.display, ?_, h.target⟩
    rw [hlog, offered_append, offered_map_took]
    exact List.forall_mem_append.2 ⟨h.offered, List.forall_mem_map.2 hr.changes⟩
  · simp only [send, hsome, Step.history]
    generalize (s.deliver host.watched r.changes a.world).delivered = before at *
    have hchanges := hr.changes
    rw [hsplit, List.forall_mem_append, List.forall_mem_cons] at hchanges
    obtain ⟨hbefore, hc, -⟩ := hchanges
    refine ⟨h.display.apply hbefore, ?_, h.target⟩
    rw [hlog, offered_append, offered_append, offered_map_took, offered_refused,
      List.forall_mem_append, List.forall_mem_append, List.forall_mem_singleton]
    exact ⟨h.offered, List.forall_mem_map.2 hbefore, hc⟩

/-- Linting a target leads to settled paths, if the way to a run with settled paths does. -/
lemma sound_lintTarget (h : Sound ⟨s, w.log⟩) (htarget : target.Target)
    (hway : ∀ set : DiagnosticSet, set.Settled → (way set).Settled) :
    (s.lintTarget host.watched target autofix way w).history.Sound := by
  -- the run itself leaves the display alone, and nothing is offered in it
  have haim : Sound ⟨s.aim (some target),
      ((s.aim (some target)).attempt host.watched target autofix w).world.log⟩ := by
    refine ⟨h.display, ?_, fun p hp => Option.some.inj hp ▸ htarget⟩
    rcases attempt_cases host (s.aim (some target)) w target autofix with
      ⟨_, -, hworld, -⟩ | ⟨_, _, -, -, hlog, -⟩
    · rw [hworld]
      exact h.offered
    · rw [hlog, offered_append, offered_ran, List.append_nil]
      exact h.offered
  rw [lintTarget]
  cases hset : ((s.aim (some target)).attempt host.watched target autofix w).result with
  | error e => exact haim
  | ok set =>
    obtain ⟨project, reports, hproject, -, rfl⟩ := attempt_ok hset
    have hroot : project.root.isAbsolute = true :=
      Project.isAbsolute_root htarget.settled.isAbsolute htarget.ne_root hproject
    exact sound_send haim (hway _ (DiagnosticSet.settled_ofReports hroot _ reports))

/-- The current directory has an absolute path if it is known. -/
def AbsoluteAt (host : Host σ) (w : σ) : Prop :=
  ∀ dir, host.workingDirectory w = .ok dir → dir.isAbsolute = true

/-- Every event keeps the invariant: it lints the file of a buffer, or the target that is
remembered. -/
lemma sound_handle (h : Sound ⟨s, w.log⟩) (hdir : AbsoluteAt host w.world) (e : Event) :
    (s.handle host.watched e w).history.Sound := by
  rcases handle_lints host.watched s e w with
    ⟨hsession, hworld⟩ | ⟨p, target, autofix, way, habsolute, hway, hsession, hworld⟩ <;>
    rw [Step.history, hsession, hworld]
  · exact h
  · rcases hway with ⟨haccepts, rfl⟩ | ⟨hlast, rfl⟩
    · obtain ⟨name, hname⟩ := Settings.fileName?_of_accepts haccepts
      have htarget : target.Target := Path.target_of_absolute hdir hname habsolute
      exact sound_lintTarget h htarget fun set _ => h.display.reviseFile htarget.settled set
    · have hp : p.Target := h.target p hlast
      obtain rfl : p = target := Except.ok.inj ((hp.settled.absolute _).symm.trans habsolute)
      exact sound_lintTarget h hp fun set hset => h.display.revise hset

end Session

/-! ## The law -/

namespace History

/-- The invariant holds after any events. -/
lemma sound_driven (settings : Settings) {past : List (Event × σ)}
    (hdir : ∀ x ∈ past, Session.AbsoluteAt host x.2) : (driven host settings past).Sound := by
  induction past using List.reverseRecOn with
  | nil =>
    exact ⟨fun _ hp => absurd hp List.not_mem_nil, fun _ hp => absurd hp List.not_mem_nil,
      fun _ hp => by cases hp⟩
  | append_singleton past x ih =>
    have hbefore := ih fun y hy => hdir y (List.mem_append_left _ hy)
    have hx : Session.AbsoluteAt host x.2 := hdir x (by simp)
    rw [driven_append]
    exact Session.sound_handle (w := ⟨x.2, (driven host settings past).log⟩) hbefore hx x.1

/-- **Only absolute normal forms reach the editor.**  Let a session be driven by events, in
surroundings that may change between them, with a current directory that is absolute whenever it is
known.  After any events, every file of the display, every file for which the editor was ever
offered a publication, and the target that is remembered have absolute paths, which are their own
normal forms, whatever they are seen from. -/
theorem settled_driven (host : Host σ) (settings : Settings) (past : List (Event × σ))
    (hdir : ∀ x ∈ past, ∀ dir, host.workingDirectory x.2 = .ok dir → dir.isAbsolute = true) :
    let h := driven host settings past
    let settled (p : Path) : Prop := p.isAbsolute = true ∧ ∀ base, Path.normalize base p = p
    (∀ p ∈ h.session.display.files.keys, settled p) ∧
    (∀ p ∈ offered h.log, settled p.path) ∧
    (∀ target, h.session.lastTarget = some target → settled target) := by
  intro h settled
  have hsound : h.Sound := sound_driven settings hdir
  have hsettled {p : Path} (hp : p.Settled) : settled p := ⟨hp.isAbsolute, hp.normalize_eq⟩
  exact ⟨fun p hp => hsettled (hsound.display p hp), fun p hp => hsettled (hsound.offered p hp),
    fun target htarget => hsettled (hsound.target target htarget).settled⟩

/-- A rehearsal in which the editor, the settings and the lint tool all spell their paths in their
own way, and the editor goes away while the file is fixed. -/
theorem settled_driven_rehearsed :
    let answer : RunResult := ⟨some 1, "[\x7b\"filePath\":\"/../p/b.js\"," ++
      "\"messages\":[\x7b\"message\":\"odd\"\x7d]\x7d,\x7b\"filePath\":\"x/../../q//a.js\"," ++
      "\"messages\":[\x7b\"message\":\"odd\"\x7d]\x7d]", ""⟩
    let past : List (Event × Rehearsal) :=
      [(.bufferSaved (some ⟨"../q/./a.js"⟩), ⟨[answer], 1⟩),
        (.command "eslint.fix", ⟨[answer], 1⟩)]
    let h := driven Rehearsal.host { configFiles := ["/p/.eslintrc"] } past
    let settled (p : Path) : Prop := p.isAbsolute = true ∧ ∀ base, Path.normalize base p = p
    (∀ x ∈ past, Session.AbsoluteAt Rehearsal.host x.2) ∧
      h.session.display.files.keys = [⟨"/../p/b.js"⟩, ⟨"/q/a.js"⟩] ∧
      (offered h.log).map (fun p => p.path.text) = ["/q/a.js", "/../p/b.js", "/q/a.js"] ∧
      h.session.lastTarget = some ⟨"/q/a.js"⟩ ∧
      settled ⟨"/../p/b.js"⟩ ∧ (∀ p ∈ offered h.log, settled p.path) ∧ settled ⟨"/q/a.js"⟩ := by
  intro answer past h settled
  have hplace : (⟨"/p"⟩ : Path).isAbsolute = true := by decide +kernel
  have hdir : ∀ x ∈ past, Session.AbsoluteAt Rehearsal.host x.2 := by
    rintro x - dir ⟨⟩
    exact hplace
  obtain ⟨hkeys, hoffered, hlast⟩ : h.session.display.files.keys = [⟨"/../p/b.js"⟩, ⟨"/q/a.js"⟩] ∧
      (offered h.log).map (fun p => p.path.text) = ["/q/a.js", "/../p/b.js", "/q/a.js"] ∧
      h.session.lastTarget = some ⟨"/q/a.js"⟩ := by
    decide +kernel
  obtain ⟨hdisplay, hsent, htarget⟩ :=
    settled_driven Rehearsal.host { configFiles := ["/p/.eslintrc"] } past hdir
  refine ⟨hdir, hkeys, hoffered, hlast, hdisplay _ ?_, hsent, htarget _ hlast⟩
  rw [hkeys]
  exact List.mem_cons_self

end History

end LintBridge
