/-
# What the lint tool is run on

A session that is driven by events runs the lint tool on the file of a buffer, and on command on the
file that it remembers.  What it remembers only depends on the events so far, and not on what has
come of them.

* `Event.target?`, `Event.task?`: what an event asks for.
* `remembered`: the target of the last event that had one.
* `History.lastTarget_driven`: this is the one that the session remembers.
* `History.runs_of_tasks`: the law about the runs of the lint tool.
-/
import LintBridge.Proofs.Session.Lint
import LintBridge.Proofs.Session.Mirror

namespace LintBridge

variable {σ : Type} {host : Host σ}

/-! ## What an event asks for -/

namespace Event

/-- The file of a buffer, if it is accepted. -/
def file? (settings : Settings) : Event → Option Path
  | .bufferSaved filePath => filePath.filter settings.accepts
  | .bufferEnter filePath => filePath.filter settings.accepts
  | .command _ => none

/-- The target for an event in a directory. -/
def target? (settings : Settings) (dir : Path) (e : Event) : Option Path :=
  (e.file? settings).map (.normalize dir)

/-- What the lint tool is to be run on for an event, and whether it is to fix it, when `last` is the
target that is remembered. -/
def task? (settings : Settings) (dir : Path) (last : Option Path) (e : Event) :
    Option (Path × Bool) :=
  if e = .command Session.fixCommand then last.map (·, true)
  else (e.target? settings dir).map (·, false)

end Event

/-- The target of the last event that had one; `dir` tells the directory at each moment. -/
def remembered (settings : Settings) (dir : σ → Path) (past : List (Event × σ)) : Option Path :=
  (past.filterMap fun x => x.1.target? settings (dir x.2)).getLast?

lemma remembered_append (settings : Settings) (dir : σ → Path) (past : List (Event × σ))
    (x : Event × σ) :
    remembered settings dir (past ++ [x]) =
      (x.1.target? settings (dir x.2)).or (remembered settings dir past) := by
  rw [remembered, List.filterMap_append, List.getLast?_append]
  congr 1
  cases hx : x.1.target? settings (dir x.2) <;> simp [hx]

/-- A path that is an absolute normal form, and the same one wherever it is seen from. -/
structure Path.Settled (p : Path) : Prop where
  isAbsolute : p.isAbsolute = true
  absolute : ∀ cwd, Path.absolute cwd p = .ok p

lemma Path.settled_normalize {base : Path} (h : base.isAbsolute = true) (p : Path) :
    (normalize base p).Settled :=
  ⟨isAbsolute_normalize h p, fun cwd => absolute_normalize h cwd p⟩

/-! ## Calls of the lint tool on a target -/

/-- The call with `--fix` put in front of its arguments. -/
def Invocation.fixing (i : Invocation) : Invocation := { i with args := fixArgument :: i.args }

lemma Invocation.args_make (tool config target root : Path) (autofix : Bool) :
    (make tool config [target] root autofix).args = (if autofix then ["--fix"] else []) ++
      ["--format", "json", "--config", config.text, target.text] := by
  cases autofix <;> rfl

namespace Session

section Calls

variable (isFile : Path → Bool) (settings : Settings) (target : Path) (autofix : Bool)

/-- There is one call if a configuration is found, and else none. -/
lemma callsOn_cases :
    (∃ e, findConfig isFile (Project.directoryOf target) settings.configFiles = .error e ∧
      callsOn isFile settings target autofix = []) ∨
    ∃ config tool root,
      findConfig isFile (Project.directoryOf target) settings.configFiles = .ok config ∧
      callsOn isFile settings target autofix = [.make tool config [target] root autofix] := by
  cases hconfig : findConfig isFile (Project.directoryOf target) settings.configFiles with
  | error e => exact .inl ⟨e, rfl, by simp [callsOn, Project.resolve, hconfig, bind, Except.bind]⟩
  | ok config =>
    refine .inr ⟨config, findTool isFile (Project.directoryOf target) settings.tool,
      config.parent?.getD (Project.directoryOf target), rfl, ?_⟩
    simp [callsOn, Project.resolve, hconfig, bind, Except.bind, pure, Except.pure]

/-- The calls that fix a target are those that lint it, with `--fix` put in front. -/
lemma callsOn_true :
    callsOn isFile settings target true =
      (callsOn isFile settings target false).map Invocation.fixing := by
  rw [callsOn, callsOn]
  cases Project.resolve isFile target settings.configFiles settings.tool <;> rfl

end Calls

/-! ## One event -/

variable {s : Session} {w : σ} {dir : Path}

lemma lintBuffer_spec (hdir : host.workingDirectory w = .ok dir) (filePath : Option Path) :
    (s.lintBuffer host filePath w).session.lastTarget =
      ((filePath.filter s.settings.accepts).map (.normalize dir)).or s.lastTarget ∧
    (s.lintBuffer host filePath w).runs =
      (((filePath.filter s.settings.accepts).map (.normalize dir)).map (·, false)).elim []
        fun task => callsOn (host.isFile w) s.settings task.1 task.2 := by
  cases filePath with
  | none => exact ⟨rfl, rfl⟩
  | some p =>
    rw [lintBuffer, session_excuse, runs_excuse, Option.filter_some]
    by_cases haccepts : s.settings.accepts p = true
    · have htarget : Path.absolute (host.workingDirectory w) p = .ok (.normalize dir p) :=
        hdir ▸ Path.absolute_of_accepts haccepts dir
      rw [if_pos haccepts, lintFile_eq haccepts htarget, lastTarget_lintTarget, runs_lintTarget]
      exact ⟨rfl, rfl⟩
    · rw [if_neg haccepts, lintFile, if_neg haccepts]
      exact ⟨rfl, rfl⟩

lemma fix_spec (host : Host σ) (w : σ)
    (hlast : ∀ target, s.lastTarget = some target → target.Settled) :
    (s.fix host w).session.lastTarget = s.lastTarget ∧
    (s.fix host w).runs =
      s.lastTarget.elim [] fun target => callsOn (host.isFile w) s.settings target true := by
  rw [fix]
  cases htarget : s.lastTarget with
  | none => exact ⟨htarget, rfl⟩
  | some target =>
    have hsettled := (hlast target htarget).absolute (host.workingDirectory w)
    simp only [lintProject_eq hsettled, lastTarget_lintTarget, runs_lintTarget, Option.elim_some,
      and_self]

/-- The target that is remembered after an event, and the calls of the lint tool for it. -/
lemma handle_spec (hdir : host.workingDirectory w = .ok dir)
    (hlast : ∀ target, s.lastTarget = some target → target.Settled) (e : Event) :
    (s.handle host e w).session.lastTarget = (e.target? s.settings dir).or s.lastTarget ∧
    (s.handle host e w).runs =
      (e.task? s.settings dir s.lastTarget).elim []
        fun task => callsOn (host.isFile w) s.settings task.1 task.2 := by
  cases e with
  | bufferSaved filePath =>
    obtain ⟨htarget, hruns⟩ := lintBuffer_spec (s := s) hdir filePath
    refine ⟨htarget, hruns.trans ?_⟩
    rw [Event.task?, if_neg (by simp)]
    rfl
  | bufferEnter filePath =>
    obtain ⟨htarget, hruns⟩ := lintBuffer_spec (s := s) hdir filePath
    refine ⟨htarget, hruns.trans ?_⟩
    rw [Event.task?, if_neg (by simp)]
    rfl
  | command name =>
    rw [handle, Event.task?]
    by_cases hname : name = fixCommand
    · obtain ⟨htarget, hruns⟩ := fix_spec host w hlast
      rw [if_pos hname, session_excuse, runs_excuse, htarget, hruns]
      cases s.lastTarget <;> simp [hname, Event.target?, Event.file?]
    · rw [if_neg hname]
      simp [hname, skip, Event.target?, Event.file?]

end Session

/-! ## Many events -/

namespace History

/-- The history of a new session after events, each with the surroundings at that moment. -/
def driven (host : Host σ) (settings : Settings) (past : List (Event × σ)) : History :=
  after host settings (past.map fun x => ⟨.handle x.1, x.2⟩)

/-- The calls of the lint tool in one more event. -/
def runsBy (host : Host σ) (settings : Settings) (past : List (Event × σ)) (x : Event × σ) :
    List Invocation :=
  calls ((driven host settings past).session.perform host.watched (.handle x.1)
    ⟨x.2, []⟩).world.log

/-- The current directory is known, and has an absolute path. -/
def Located (host : Host σ) (dir : σ → Path) (x : Event × σ) : Prop :=
  host.workingDirectory x.2 = .ok (dir x.2) ∧ (dir x.2).isAbsolute = true

variable {settings : Settings} {dir : σ → Path} {past : List (Event × σ)}

lemma driven_append (past : List (Event × σ)) (x : Event × σ) :
    driven host settings (past ++ [x]) =
      (driven host settings past).next host ⟨.handle x.1, x.2⟩ := by
  rw [driven, driven, after, after, List.map_append, List.foldl_append]
  rfl

lemma settled_remembered {target : Path} (hpast : ∀ x ∈ past, Located host dir x)
    (h : remembered settings dir past = some target) : target.Settled := by
  obtain ⟨x, hx, htarget⟩ := List.mem_filterMap.1 (List.mem_of_getLast? h)
  obtain ⟨p, -, rfl⟩ := Option.map_eq_some_iff.1 htarget
  exact Path.settled_normalize (hpast x hx).2 p

/-- **What is remembered.**  After events, a session remembers the target of the last one that had a
target. -/
theorem lastTarget_driven (settings : Settings) (hpast : ∀ x ∈ past, Located host dir x) :
    (driven host settings past).session.lastTarget = remembered settings dir past := by
  induction past using List.reverseRecOn with
  | nil => rfl
  | append_singleton past x ih =>
    have hbefore : ∀ y ∈ past, Located host dir y := fun y hy =>
      hpast y (List.mem_append_left _ hy)
    have hx : Located host dir x := hpast x (by simp)
    have hsettings : (driven host settings past).session.settings = settings :=
      settings_after host settings _
    have hlast (target : Path)
        (htarget : (driven host settings past).session.lastTarget = some target) :
        target.Settled :=
      settled_remembered hbefore ((ih hbefore).symm.trans htarget)
    have hdir : host.watched.workingDirectory ⟨x.2, (driven host settings past).log⟩ =
        .ok (dir x.2) := hx.1
    rw [driven_append, remembered_append, ← ih hbefore, next, Session.perform,
      (Session.handle_spec hdir hlast x.1).1, hsettings]

/-- The calls of the lint tool in an event are those for its task. -/
lemma runsBy_eq {x : Event × σ} (hpast : ∀ y ∈ past, Located host dir y)
    (hx : Located host dir x) :
    runsBy host settings past x =
      (x.1.task? settings (dir x.2) (remembered settings dir past)).elim [] fun task =>
        Session.callsOn (host.isFile x.2) settings task.1 task.2 := by
  have hsettings : (driven host settings past).session.settings = settings :=
    settings_after host settings _
  have hremembered := lastTarget_driven settings hpast
  have hlast (target : Path)
      (htarget : (driven host settings past).session.lastTarget = some target) : target.Settled :=
    settled_remembered hpast (hremembered.symm.trans htarget)
  have hdir : host.watched.workingDirectory ⟨x.2, []⟩ = .ok (dir x.2) := hx.1
  rw [runsBy, Session.calls_perform, Session.perform, (Session.handle_spec hdir hlast x.1).2,
    hsettings, hremembered]
  rfl

/-- An event after which no other had a file gives the target. -/
lemma remembered_of_last {before rest : List (Event × σ)} {x : Event × σ}
    (hx : (x.1.file? settings).isSome) (hrest : ∀ y ∈ rest, y.1.file? settings = none) :
    remembered settings dir (before ++ x :: rest) = x.1.target? settings (dir x.2) := by
  have hnone : rest.filterMap (fun y => y.1.target? settings (dir y.2)) = [] := by
    rw [List.filterMap_eq_nil_iff]
    intro y hy
    rw [Event.target?, hrest y hy]
    rfl
  obtain ⟨p, hp⟩ := Option.isSome_iff_exists.1 hx
  have htarget : x.1.target? settings (dir x.2) = some (.normalize (dir x.2) p) := by
    rw [Event.target?, hp]
    rfl
  rw [remembered, List.filterMap_append, List.filterMap_cons, htarget, hnone]
  simp

lemma task?_of_file? {e : Event} (h : (e.file? settings).isSome) (d : Path) (last : Option Path) :
    e.task? settings d last = (e.target? settings d).map (·, false) := by
  refine if_neg ?_
  rintro rfl
  cases h

/-- Fixing repeats the calls of the event that gave the target, if the files are as they were. -/
lemma runsBy_fix {before rest : List (Event × σ)} {x : Event × σ} {w : σ}
    (hpast : ∀ y ∈ before ++ x :: rest, Located host dir y)
    (hnow : Located host dir (.command Session.fixCommand, w))
    (hx : (x.1.file? settings).isSome) (hrest : ∀ y ∈ rest, y.1.file? settings = none)
    (hfiles : host.isFile w = host.isFile x.2) :
    runsBy host settings (before ++ x :: rest) (.command Session.fixCommand, w) =
      (runsBy host settings before x).map Invocation.fixing := by
  have hbefore : ∀ y ∈ before, Located host dir y := fun y hy =>
    hpast y (List.mem_append_left _ hy)
  have hthen : Located host dir x := hpast x (by simp)
  rw [runsBy_eq hpast hnow, runsBy_eq hbefore hthen, task?_of_file? hx, Event.task?, if_pos rfl,
    remembered_of_last hx hrest, hfiles]
  cases x.1.target? settings (dir x.2) with
  | none => rfl
  | some target => exact Session.callsOn_true (host.isFile x.2) settings target

/-- A task is to fix exactly if the event is the command for it, and its target is settled. -/
lemma of_task? {x : Event × σ} {target : Path} {fix : Bool} (hpast : ∀ y ∈ past, Located host dir y)
    (hx : Located host dir x)
    (h : x.1.task? settings (dir x.2) (remembered settings dir past) = some (target, fix)) :
    fix = decide (x.1 = .command Session.fixCommand) ∧ target.Settled := by
  rw [Event.task?] at h
  split at h
  next hcommand =>
    obtain ⟨target', hlast, heq⟩ := Option.map_eq_some_iff.1 h
    obtain ⟨rfl, rfl⟩ := Prod.mk.inj heq
    exact ⟨(decide_eq_true hcommand).symm, settled_remembered hpast hlast⟩
  next hcommand =>
    obtain ⟨target', htarget, heq⟩ := Option.map_eq_some_iff.1 h
    obtain ⟨rfl, rfl⟩ := Prod.mk.inj heq
    obtain ⟨p, -, rfl⟩ := Option.map_eq_some_iff.1 htarget
    exact ⟨(decide_eq_false hcommand).symm, Path.settled_normalize hx.2 p⟩

/-- **What the lint tool is run on.**  Let a session be driven by events, in surroundings that may
change between them, with a current directory that is known and absolute.  It remembers the target
of the last event on an accepted file.  In one more event the lint tool is called at most once, and
exactly if the event asks for it, to lint the accepted file of its buffer or to fix the target that
is remembered, and a configuration is found for this target.  The call has the arguments for the
target, which is absolute, with `--fix` in front of them exactly if the event is the command for
fixing.  If the files are as they were when the target was given, then the call that fixes it is the
one that linted it, with `--fix` put in front of the arguments. -/
theorem runs_of_tasks (host : Host σ) (settings : Settings) (dir : σ → Path)
    (past : List (Event × σ)) (e : Event) (w : σ)
    (hdir : ∀ x ∈ past ++ [(e, w)], Located host dir x) :
    let last := remembered settings dir past
    let task? := e.task? settings (dir w) last
    let config? (target : Path) :=
      findConfig (host.isFile w) (Project.directoryOf target) settings.configFiles
    let runs := runsBy host settings past (e, w)
    (driven host settings past).session.lastTarget = last ∧
    runs.length ≤ 1 ∧
    (runs ≠ [] ↔ ∃ target fix config, task? = some (target, fix) ∧ config? target = .ok config) ∧
    (∀ call ∈ runs, ∃ target fix config,
      task? = some (target, fix) ∧ config? target = .ok config ∧ target.isAbsolute = true ∧
      call.args = (if e = .command Session.fixCommand then ["--fix"] else []) ++
        ["--format", "json", "--config", config.text, target.text]) ∧
    (∀ before x rest, past = before ++ x :: rest → (x.1.file? settings).isSome →
      (∀ y ∈ rest, y.1.file? settings = none) → host.isFile w = host.isFile x.2 →
      e = .command Session.fixCommand →
        runs = (runsBy host settings before x).map Invocation.fixing) := by
  intro last task? config? runs
  have hpast : ∀ x ∈ past, Located host dir x := fun x hx => hdir x (List.mem_append_left _ hx)
  have hnow : Located host dir (e, w) := hdir (e, w) (by simp)
  have hruns : runs = task?.elim [] fun task =>
      Session.callsOn (host.isFile w) settings task.1 task.2 := runsBy_eq hpast hnow
  refine ⟨lastTarget_driven settings hpast, ?_⟩
  rw [← and_assoc, ← and_assoc]
  constructor
  · rcases htask : task? with _ | ⟨target, fix⟩
    · rw [htask] at hruns
      simp [hruns]
    · obtain ⟨hfix, hsettled⟩ := of_task? hpast hnow htask
      rw [htask] at hruns
      rcases Session.callsOn_cases (host.isFile w) settings target fix with
        ⟨err, hconfig, hcalls⟩ | ⟨config, tool, root, hconfig, hcalls⟩
      · simp [hruns, hcalls, config?, hconfig]
      · have hone : runs = [.make tool config [target] root fix] := hruns.trans hcalls
        rw [hone]
        refine ⟨⟨Nat.le_refl 1, iff_of_true (by simp) ⟨target, fix, config, rfl, hconfig⟩⟩, ?_⟩
        intro call hcall
        obtain rfl := List.mem_singleton.1 hcall
        refine ⟨target, fix, config, rfl, hconfig, hsettled.isAbsolute, ?_⟩
        rw [Invocation.args_make, hfix]
        simp
  · rintro before x rest rfl hx hrest hfiles rfl
    exact runsBy_fix hpast hnow hx hrest hfiles

/-- A rehearsal in which the lint tool prints no report for the file that is entered, and then a
buffer without a file and another command follow.  The file is fixed all the same. -/
theorem runs_of_tasks_rehearsed :
    let entered : Event × Rehearsal :=
      (.bufferEnter (some ⟨"src/../a.js"⟩), ⟨[⟨some 0, "no report", ""⟩], 0⟩)
    let rest : List (Event × Rehearsal) :=
      [(.bufferSaved none, ⟨[], 0⟩), (.command "eslint.help", ⟨[], 0⟩)]
    let fix : Event × Rehearsal := (.command "eslint.fix", ⟨[], 0⟩)
    let runs := runsBy Rehearsal.host {} (entered :: rest) fix
    (∀ x ∈ entered :: rest ++ [fix], Located Rehearsal.host (fun _ => ⟨"/p"⟩) x) ∧
      runs = [⟨⟨"eslint"⟩, ["--fix", "--format", "json", "--config", "/p/.eslintrc", "/p/a.js"],
        ⟨"/p"⟩⟩] ∧
      runs.length ≤ 1 ∧ runs = (runsBy Rehearsal.host {} [] entered).map Invocation.fixing := by
  intro entered rest fix runs
  have hplace : (⟨"/p"⟩ : Path).isAbsolute = true := by decide +kernel
  have hdir : ∀ x ∈ entered :: rest ++ [fix], Located Rehearsal.host (fun _ => ⟨"/p"⟩) x :=
    fun _ _ => ⟨rfl, hplace⟩
  have hrest : ∀ y ∈ rest, y.1.file? {} = none := by decide +kernel
  obtain ⟨-, hone, -, -, hfix⟩ :=
    runs_of_tasks Rehearsal.host {} (fun _ => ⟨"/p"⟩) (entered :: rest) fix.1 fix.2 hdir
  exact ⟨hdir, by decide +kernel, hone, hfix [] entered rest rfl (by decide +kernel) hrest rfl rfl⟩

end History

end LintBridge
