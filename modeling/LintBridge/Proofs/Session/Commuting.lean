/-
# Buffers of different files

Linting the file of a buffer looks at one file of the display and changes this file alone, whatever
other files the lint tool reports.  So two events for buffers of different files can come in either
order: each comes to the same and sends the same, and the display afterwards is the same.

* `Host.Still`: surroundings in which nothing changes that a session asks for.
* `Step.Same`: two steps come to the same.
* `Session.lintAlone_same`: linting a file only depends on what is shown in it.
* `Display.linted_comm`: displays after two files have been linted in either order.
* `History.buffers_commute`: the law.
-/
import LintBridge.Proofs.Session.Agreement
import LintBridge.Proofs.Session.Target

namespace LintBridge

variable {σ τ : Type} {host : Host σ} {w w' w'' : σ}

/-! ## Still surroundings -/

lemma Host.Alike.trans (h : host.Alike w w') (h' : host.Alike w' w'') : host.Alike w w'' where
  directory := h.directory.trans h'.directory
  files := h.files.trans h'.files
  answers call := (h.answers call).trans (h'.answers call)

/-- Neither running the lint tool nor publishing changes the directory, the files or the answers of
the lint tool. -/
structure Host.Still (host : Host σ) : Prop where
  run : ∀ call w, host.Alike w (host.run call w).2
  publish : ∀ p w, host.Alike w (host.publish p w).2

namespace Session

variable {s s' : Session} {target : Path} {autofix : Bool} {way : DiagnosticSet → Revision}

lemma alike_attempt (hstill : host.Still) (s : Session) (target : Path) (autofix : Bool) (w : σ) :
    host.Alike w (s.attempt host target autofix w).world := by
  rw [attempt]
  split
  next => exact .refl w
  next => exact hstill.run _ w

lemma alike_deliver (hstill : host.Still) (s : Session) (changes : List Change) (w : σ) :
    host.Alike w (s.deliver host changes w).world := by
  induction changes generalizing w with
  | nil => exact .refl w
  | cons c rest ih =>
    have hpublish := hstill.publish (s.publication c.path c.diagnostics) w
    rw [deliver]
    rcases hp : host.publish (s.publication c.path c.diagnostics) w with ⟨_ | e, world⟩ <;>
      rw [hp] at hpublish
    · exact hpublish.trans (ih world)
    · exact hpublish

lemma alike_send (hstill : host.Still) (s : Session) (a : Attempt σ) (r : Revision) :
    host.Alike a.world (s.send host a r).world := by
  have hdeliver := alike_deliver hstill s r.changes a.world
  rw [send]
  split <;> exact hdeliver

lemma alike_lintTarget (hstill : host.Still) (w : σ) :
    host.Alike w (s.lintTarget host target autofix way w).world := by
  have hattempt := alike_attempt hstill (s.aim (some target)) target autofix w
  rw [lintTarget]
  split
  next => exact hattempt
  next => exact hattempt.trans (alike_send hstill _ _ _)

end Session

/-! ## Steps that come to the same -/

/-- Two steps come to the same: they call the lint tool in the same way, send the same and say the
same. -/
structure Step.Same (step step' : Step σ) : Prop where
  result : step.result = step'.result
  runs : step.runs = step'.runs
  sent : step.sent = step'.sent
  notes : step.notes = step'.notes

lemma Step.Same.symm {step step' : Step σ} (h : step.Same step') : step'.Same step :=
  ⟨h.result.symm, h.runs.symm, h.sent.symm, h.notes.symm⟩

namespace Display

variable {d : Display} {p q target target' : Path} {found found' : Except Failure DiagnosticSet}

/-- What is sent on the way to a run in one file only depends on what the display says of it. -/
lemma changes_reviseFile_congr {d' : Display} (h : d.files.find? p = d'.files.find? p)
    (next : DiagnosticSet) : (d.reviseFile next p).changes = (d'.reviseFile next p).changes := by
  have hneeds : d.needsPublish p = d'.needsPublish p := by
    funext l
    rw [needsPublish, needsPublish, isClean, isClean, h]
  simp only [reviseFile, hneeds]

/-- The display after a file has been linted: the file shows what was found, if something was. -/
def linted (d : Display) (target : Path) : Except Failure DiagnosticSet → Display
  | .error _ => d
  | .ok set => (d.reviseFile set target).display

/-- Linting a file leaves the other files alone. -/
lemma find?_linted (d : Display) (target : Path) (found : Except Failure DiagnosticSet) (q : Path) :
    (d.linted target found).files.find? q =
      if target.Same q then (d.linted target found).files.find? target
      else d.files.find? q := by
  split
  next hs => rw [PathMap.find?_same hs]
  next hs =>
    cases found with
    | error e => rfl
    | ok set => rw [linted, find?_reviseFile, if_neg hs]

/-- What a file shows after it has been linted only depends on what it showed before. -/
lemma find?_linted_congr {d' : Display} (h : d.files.find? target = d'.files.find? target)
    (found : Except Failure DiagnosticSet) :
    (d.linted target found).files.find? target = (d'.linted target found).files.find? target := by
  cases found with
  | error e => exact h
  | ok set =>
    have hs : target.Same target := .refl target
    rw [linted, linted, find?_reviseFile, find?_reviseFile, if_pos hs, if_pos hs]

lemma Within.linted (h : d.Within Path.Plain) (htarget : target.Plain)
    (found : Except Failure DiagnosticSet) : (d.linted target found).Within Path.Plain := by
  cases found with
  | error e => exact h
  | ok set => exact (h.reviseFile htarget set).display

/-- Displays whose files are entered in their plainest spelling are equal if they agree. -/
lemma Agrees.eq {d' : Display} (h : d.Agrees d') (hd : d.Within Path.Plain)
    (hd' : d'.Within Path.Plain) : d = d' := by
  have hfiles : d.files = d'.files :=
    PathMap.eq_of_find? (fun e he => hd e.1 (List.mem_map_of_mem he))
      (fun e he => hd' e.1 (List.mem_map_of_mem he)) h
  cases d
  cases d'
  exact congrArg Display.mk hfiles

/-- Two files can be linted in either order. -/
theorem linted_comm (hd : d.Within Path.Plain) (htarget : target.Plain) (htarget' : target'.Plain)
    (hne : target ≠ target') :
    (d.linted target found).linted target' found' =
      (d.linted target' found').linted target found := by
  have hother : ¬target.Same target' := fun hs => hne (htarget.eq_of_same htarget' hs)
  have hother' : ¬target'.Same target := fun hs => hother hs.symm
  have hfind : (d.linted target found).files.find? target' = d.files.find? target' := by
    rw [find?_linted, if_neg hother]
  have hfind' : (d.linted target' found').files.find? target = d.files.find? target := by
    rw [find?_linted, if_neg hother']
  refine Agrees.eq (fun q => ?_) ((hd.linted htarget found).linted htarget' found')
    ((hd.linted htarget' found').linted htarget found)
  rw [find?_linted _ target', find?_linted _ target, find?_linted _ target found q,
    find?_linted _ target' found' q]
  -- a path is a spelling of one of the targets, or of none
  by_cases hs : target.Same q
  · have hs' : ¬target'.Same q := fun hs' => hother (hs.trans hs'.symm)
    rw [if_pos hs, if_pos hs, if_neg hs']
    exact (find?_linted_congr hfind' found).symm
  · rw [if_neg hs, if_neg hs]
    split
    next => exact find?_linted_congr hfind found'
    next => rfl

end Display

namespace Session

variable {s s' : Session} {target p : Path} {e : Event}

/-! ## Linting a file alone -/

/-- Lint a target alone. -/
def lintAlone (host : Host σ) (s : Session) (target : Path) (w : σ) : Step σ :=
  s.lintTarget host target false (fun set => s.display.reviseFile set target) w

lemma attempt_same (hsettings : s.settings = s'.settings) (hw : host.Alike w w') (target : Path)
    (autofix : Bool) :
    let a := s.attempt host target autofix w
    let a' := s'.attempt host target autofix w'
    a.result = a'.result ∧ a.runs = a'.runs ∧ a.notes = a'.notes := by
  rw [attempt_congr hsettings, attempt, attempt, ← hw.files]
  cases hproject : Project.resolve (host.isFile w) target s'.settings.configFiles
      s'.settings.tool with
  | error e => exact ⟨rfl, rfl, rfl⟩
  | ok project => simp only [hw.answers, and_self]

lemma notes_send (host : Host σ) (s : Session) (a : Attempt σ) (r : Revision) :
    (s.send host a r).notes = a.notes := by
  rw [send]
  split <;> rfl

/-- The session afterwards shows what was found, and remembers the target. -/
lemma session_lintAlone (haccepting : host.Accepting) (s : Session) (target : Path) (w : σ) :
    (s.lintAlone host target w).session =
      ⟨s.settings, s.display.linted target (s.finding host target false w), some target⟩ := by
  rw [lintAlone]
  cases hfinding : s.finding host target false w with
  | error e => rw [(lintTarget_of_error hfinding).2.1]; rfl
  | ok set => rw [(lintTarget_of_ok haccepting hfinding).2.1]; rfl

/-- Linting a file only depends on the settings, on what is shown in the file, and on what the
session asks its surroundings. -/
lemma lintAlone_same (haccepting : host.Accepting) (hsettings : s.settings = s'.settings)
    (hw : host.Alike w w')
    (hshown : s.display.files.find? target = s'.display.files.find? target) :
    (s.lintAlone host target w).Same (s'.lintAlone host target w') := by
  have haim : (s.aim (some target)).settings = (s'.aim (some target)).settings := hsettings
  obtain ⟨hresult, hruns, hnotes⟩ := attempt_same haim hw target false
  rw [lintAlone, lintAlone, lintTarget, lintTarget, hresult]
  cases hfound : ((s'.aim (some target)).attempt host target false w').result with
  | error e => exact ⟨rfl, hruns, rfl, hnotes⟩
  | ok set =>
    have hchanges := Display.changes_reviseFile_congr hshown set
    obtain ⟨hend, -, hsent⟩ := send_of_accepting haccepting (s.aim (some target))
      ((s.aim (some target)).attempt host target false w) (s.display.reviseFile set target)
    obtain ⟨hend', -, hsent'⟩ := send_of_accepting haccepting (s'.aim (some target))
      ((s'.aim (some target)).attempt host target false w') (s'.display.reviseFile set target)
    constructor
    · rw [hend, hend', Revision.updated, Revision.updated, Revision.cleared, Revision.cleared,
        hchanges]
    · rw [runs_send, runs_send, hruns]
    · have hmessage : (s.aim (some target)).message = (s'.aim (some target)).message := by
        funext c
        simp only [message, publication, aim, hsettings]
      rw [hsent, hsent', hchanges, hmessage]
    · rw [notes_send, notes_send, hnotes]

/-! ## Events -/

lemma excuse_same {step step' : Step σ} (h : step.Same step')
    (hsettings : step.session.settings = step'.session.settings) :
    (excuse step).Same (excuse step') := by
  obtain ⟨hresult, hruns, hsent, hnotes⟩ := h
  constructor
  · rw [excuse_result, excuse_result, hresult]
  · rw [runs_excuse, runs_excuse, hruns]
  · rw [sent_excuse, sent_excuse, hsent]
  · rw [excuse, excuse, hresult]
    split
    next => simp only [hnotes, hsettings]
    next => exact hnotes

/-- An event for an accepted buffer leads to linting its file alone. -/
lemma handle_buffer (hfile : e.file? s.settings = some p)
    (htarget : Path.absolute (host.workingDirectory w) p = .ok target) :
    s.handle host e w = excuse (s.lintAlone host target w) := by
  have hbuffer {filePath : Option Path} (h : filePath.filter s.settings.accepts = some p) :
      s.lintBuffer host filePath w = excuse (s.lintAlone host target w) := by
    obtain ⟨rfl, haccepts⟩ := Option.filter_eq_some_iff.1 h
    rw [lintBuffer, lintFile_eq haccepts htarget, lintAlone]
  cases e with
  | bufferSaved filePath => exact hbuffer hfile
  | bufferEnter filePath => exact hbuffer hfile
  | command name => cases hfile

lemma finding_congr (hsettings : s.settings = s'.settings) (hw : host.Alike w w') (target : Path) :
    s.finding host target false w = s'.finding host target false w' :=
  (attempt_same hsettings hw target false).1

/-- After an event for the buffer of another file, an event comes to the same as before it, and the
session shows what was found in both files. -/
lemma handle_after_other (haccepting : host.Accepting) (hstill : host.Still) {e' : Event}
    {p' target' : Path} (hfile : e.file? s.settings = some p)
    (hfile' : e'.file? s.settings = some p')
    (htarget : Path.absolute (host.workingDirectory w) p = .ok target)
    (htarget' : Path.absolute (host.workingDirectory w) p' = .ok target')
    (hother : ¬target'.Same target) :
    let first := s.handle host e' w
    let second := first.session.handle host e first.world
    (s.handle host e w).Same second ∧
      second.session = ⟨s.settings,
        (s.display.linted target' (s.finding host target' false w)).linted target
          (s.finding host target false w),
        some target⟩ := by
  intro first second
  have hfirst : first = excuse (s.lintAlone host target' w) := handle_buffer hfile' htarget'
  have hsession : first.session =
      ⟨s.settings, s.display.linted target' (s.finding host target' false w), some target'⟩ := by
    rw [hfirst, session_excuse, session_lintAlone haccepting]
  have halike : host.Alike w first.world := by
    rw [hfirst, world_excuse]
    exact alike_lintTarget hstill w
  have hsettings : s.settings = first.session.settings := by rw [hsession]
  have hshown : s.display.files.find? target = first.session.display.files.find? target := by
    rw [hsession, Display.find?_linted, if_neg hother]
  have hsecond : second = excuse (first.session.lintAlone host target first.world) :=
    handle_buffer (hsettings ▸ hfile) (halike.directory ▸ htarget)
  have hsession' : second.session = ⟨first.session.settings,
      first.session.display.linted target (first.session.finding host target false first.world),
      some target⟩ := by
    rw [hsecond, session_excuse, session_lintAlone haccepting]
  constructor
  · rw [handle_buffer hfile htarget, hsecond]
    refine excuse_same (lintAlone_same haccepting hsettings halike hshown) ?_
    rw [session_lintAlone haccepting, session_lintAlone haccepting]
    exact hsettings
  · rw [hsession', ← finding_congr hsettings halike target, hsession]

end Session

namespace History

/-- **Buffers of different files commute.**  After any calls, take two events for buffers with
accepted files whose targets differ.  The editor takes everything, and nothing changes in the
surroundings.  Whichever event comes first, each comes to the same result, calls the lint tool in
the same way, sends the same publications and says the same.  Afterwards the settings and the
display are the same, and the target of the event that came last is remembered. -/
theorem buffers_commute (past : Host τ) (settings : Settings) (calls : List (Call τ))
    (haccepting : host.Accepting) (hstill : host.Still) (w : σ) {e e' : Event}
    {p p' target target' : Path} (hfile : e.file? settings = some p)
    (hfile' : e'.file? settings = some p')
    (htarget : Path.absolute (host.workingDirectory w) p = .ok target)
    (htarget' : Path.absolute (host.workingDirectory w) p' = .ok target')
    (hne : target ≠ target') :
    let s := (after past settings calls).session
    let one := s.handle host e w
    let two := one.session.handle host e' one.world
    let first := s.handle host e' w
    let second := first.session.handle host e first.world
    one.Same second ∧ two.Same first ∧
      two.session.display = second.session.display ∧
      two.session.settings = second.session.settings ∧
      two.session.lastTarget = some target' ∧ second.session.lastTarget = some target := by
  intro s one two first second
  have hsettings : s.settings = settings := settings_after past settings calls
  have hplain : s.display.Within Path.Plain := plain_after past settings calls
  clear_value s
  subst hsettings
  have hplain₁ : target.Plain := Path.plain_absolute htarget
  have hplain₂ : target'.Plain := Path.plain_absolute htarget'
  have hother : ¬target.Same target' := fun hs => hne (hplain₁.eq_of_same hplain₂ hs)
  obtain ⟨hsame, hsession⟩ :=
    Session.handle_after_other haccepting hstill hfile hfile' htarget htarget' fun hs =>
      hother hs.symm
  obtain ⟨hsame', hsession'⟩ :=
    Session.handle_after_other haccepting hstill hfile' hfile htarget' htarget hother
  refine ⟨hsame, hsame'.symm, ?_⟩
  simp only [one, two, first, second, hsession, hsession', and_self, and_true]
  exact Display.linted_comm hplain hplain₁ hplain₂ hne

end History

/-! ### A rehearsal -/

/-- The surroundings of a rehearsal in which the lint tool gives the same answer again and again. -/
def Rehearsal.steady : Host Rehearsal :=
  { Rehearsal.patient with run := fun call w => ((Rehearsal.patient.run call w).1, w) }

lemma Rehearsal.accepting_steady : Rehearsal.steady.Accepting := fun _ _ => rfl

lemma Rehearsal.still_steady : Rehearsal.steady.Still where
  run _ w := .refl w
  publish _ w := .refl w

namespace History

/-- Two files are dirty, and the lint tool only reports a third one.  Each of two events clears one
of them. -/
theorem buffers_commute_rehearsed :
    let calls : List (Call Rehearsal) :=
      [⟨.lintProject ⟨"a.js"⟩ false, ⟨[Rehearsal.complaints], 2⟩⟩]
    let s := (after Rehearsal.host {} calls).session
    let w : Rehearsal := ⟨[Rehearsal.relief], 0⟩
    let e : Event := .bufferSaved (some ⟨"src/..//a.js"⟩)
    let e' : Event := .bufferEnter (some ⟨"b.js"⟩)
    let one := s.handle Rehearsal.steady e w
    let two := one.session.handle Rehearsal.steady e' one.world
    let first := s.handle Rehearsal.steady e' w
    let second := first.session.handle Rehearsal.steady e first.world
    Rehearsal.steady.Accepting ∧ Rehearsal.steady.Still ∧
      e.file? {} = some ⟨"src/..//a.js"⟩ ∧ e'.file? {} = some ⟨"b.js"⟩ ∧
      Path.absolute (Rehearsal.steady.workingDirectory w) ⟨"src/..//a.js"⟩ = .ok ⟨"/p/a.js"⟩ ∧
      Path.absolute (Rehearsal.steady.workingDirectory w) ⟨"b.js"⟩ = .ok ⟨"/p/b.js"⟩ ∧
      second.sent.map Publication.content = [(⟨"/p/a.js"⟩, [])] ∧
      first.sent.map Publication.content = [(⟨"/p/b.js"⟩, [])] ∧
      one.Same second ∧ two.Same first ∧ two.session.display = second.session.display := by
  intro calls s w e e' one two first second
  have hfile : e.file? {} = some ⟨"src/..//a.js"⟩ := by decide +kernel
  have hfile' : e'.file? {} = some ⟨"b.js"⟩ := by decide +kernel
  have htarget : Path.absolute (Rehearsal.steady.workingDirectory w) ⟨"src/..//a.js"⟩ =
      .ok ⟨"/p/a.js"⟩ := by
    decide +kernel
  have htarget' : Path.absolute (Rehearsal.steady.workingDirectory w) ⟨"b.js"⟩ =
      .ok ⟨"/p/b.js"⟩ := by
    decide +kernel
  obtain ⟨hone, htwo⟩ : second.sent.map Publication.content = [(⟨"/p/a.js"⟩, [])] ∧
      first.sent.map Publication.content = [(⟨"/p/b.js"⟩, [])] := by
    decide +kernel
  have hlaw := buffers_commute Rehearsal.host {} calls Rehearsal.accepting_steady
    Rehearsal.still_steady w hfile hfile' htarget htarget' (by decide +kernel)
  have hs : (after Rehearsal.host {} calls).session = s := rfl
  have hstep : s.handle Rehearsal.steady e w = one := rfl
  have hstep' : s.handle Rehearsal.steady e' w = first := rfl
  have hnext : one.session.handle Rehearsal.steady e' one.world = two := rfl
  have hnext' : first.session.handle Rehearsal.steady e first.world = second := rfl
  -- the rehearsal is not to be gone through once more
  clear_value two second
  clear_value one first
  clear_value s
  dsimp only at hlaw
  rw [hs, hstep, hstep', hnext, hnext'] at hlaw
  obtain ⟨hsame, hsame', hdisplay, -⟩ := hlaw
  exact ⟨Rehearsal.accepting_steady, Rehearsal.still_steady, hfile, hfile', htarget, htarget', hone,
    htwo, hsame, hsame', hdisplay⟩

end History

end LintBridge
