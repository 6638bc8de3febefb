/-
# Trying again

When the editor refuses a publication, linting a project fails half-way.  It can be tried again,
with the same findings of the lint tool, and refused again, at another place.  As soon as the editor
takes all it is offered, the display is what one undisturbed call would have made of it, and no file
has been cleared twice on the way.

* `Call.Finds`: the calls that lint a project, in which the lint tool finds a given run.
* `History.retry_converges`: the law for any number of attempts.
-/
import LintBridge.Proofs.Display.Interrupted
import LintBridge.Proofs.Session.Lint
import LintBridge.Proofs.Session.Mirror

namespace LintBridge

variable {σ : Type} {host : Host σ}

/-- The call lints a project, and what the lint tool answers stands for the run `set`. -/
def Call.Finds (host : Host σ) (settings : Settings) (set : DiagnosticSet) (c : Call σ) : Prop :=
  ∃ p autofix target, c.operation = .lintProject p autofix ∧
    Path.absolute (host.workingDirectory c.world) p = .ok target ∧
    ((Session.start settings).attempt host target autofix c.world).result = .ok set

namespace History

/-- The history of a session from now on. -/
def resume (host : Host σ) (s : Session) (calls : List (Call σ)) : History :=
  calls.foldl (next host) ⟨s, []⟩

/-- The editor refuses nothing in the call. -/
def Undisturbed (host : Host σ) (h : History) (c : Call σ) : Prop :=
  refusals (h.next host c).log = refusals h.log

instance (host : Host σ) (h : History) (c : Call σ) : Decidable (h.Undisturbed host c) :=
  inferInstanceAs (Decidable (_ = _))

variable {h : History} {c : Call σ} {set : DiagnosticSet} {d : Display}

/-- A call that finds a run sends some first changes of the way to it, and all of them if the editor
refuses nothing. -/
lemma next_of_finds (hc : c.Finds host h.session.settings set) :
    (h.next host c).session.settings = h.session.settings ∧
    ∃ sent rest : List Change, (h.session.display.revise set).changes = sent ++ rest ∧
      (h.next host c).lists = h.lists ++ sent.map Change.content ∧
      ((rest = [] ∧ (h.next host c).session.display = (h.session.display.revise set).display) ∨
        (¬h.Undisturbed host c ∧
          (h.next host c).session.display = h.session.display.apply sent)) := by
  obtain ⟨p, autofix, target, hoperation, htarget, hresult⟩ := hc
  let s := h.session.aim (some target)
  let a := s.attempt host.watched target autofix ⟨c.world, h.log⟩
  have hset : a.result = .ok set := by
    have hwatched := s.attempt_watched host ⟨c.world, h.log⟩ target autofix
    have hsettings : s.settings = (Session.start h.session.settings).settings := rfl
    rw [Session.attempt_congr hsettings] at hwatched
    exact (congrArg Attempt.result hwatched).trans hresult
  have hnext : h.session.perform host.watched c.operation ⟨c.world, h.log⟩ =
      s.send host.watched a (h.session.display.revise set) := by
    have htarget' : Path.absolute (host.watched.workingDirectory ⟨c.world, h.log⟩) p =
        .ok target := htarget
    rw [hoperation, Session.perform, Session.lintProject_eq htarget', Session.lintTarget]
    simp only [a, s] at hset ⊢
    rw [hset]
  obtain ⟨htaken, hrefusals⟩ := s.log_attempt host target autofix ⟨c.world, h.log⟩
  obtain ⟨sent, rest, hsplit, hlog, hend⟩ :=
    s.send_cases host a (h.session.display.revise set)
  refine ⟨?_, sent, rest, hsplit, ?_, ?_⟩
  · rw [next, hnext]
    exact s.settings_send host.watched a _
  · rw [lists, next, hnext, hlog, htaken, List.map_append, List.map_map]
    rfl
  · rw [Undisturbed, next, hnext, ← hrefusals]
    exact hend

/-- What attempts lead to, and what they have sent. -/
lemma attempted_foldl (hd : d.Tidy) (attempts : List (Call σ))
    (hattempts : ∀ c ∈ attempts, c.Finds host h.session.settings set)
    (hstart : d.Attempted set h.lists h.session.display) :
    (attempts.foldl (next host) h).session.settings = h.session.settings ∧
      d.Attempted set (attempts.foldl (next host) h).lists
        (attempts.foldl (next host) h).session.display := by
  -- on the attempts to come; `h` is the history so far
  induction attempts generalizing h with
  | nil => exact ⟨rfl, hstart⟩
  | cons c rest ih =>
    obtain ⟨hsettings, sent, left, hsplit, hlists, hend⟩ :=
      next_of_finds (hattempts c List.mem_cons_self)
    have hnext : d.Attempted set (h.next host c).lists (h.next host c).session.display := by
      rw [hlists]
      rcases hend with ⟨rfl, hdisplay⟩ | ⟨-, hdisplay⟩
      · rw [List.append_nil] at hsplit
        rw [hdisplay, ← hsplit]
        exact hstart.completed hd
      · rw [hdisplay]
        exact hstart.interrupted hsplit
    obtain ⟨hsettings', hlast⟩ := ih
      (fun c' hc' => hsettings ▸ hattempts c' (List.mem_cons_of_mem c hc')) hnext
    exact ⟨hsettings'.trans hsettings, hlast⟩

/-- An undisturbed call that finds a run leads to the end of the way to it. -/
lemma display_of_undisturbed (hc : c.Finds host h.session.settings set)
    (hcalm : h.Undisturbed host c) :
    (h.next host c).session.display = (h.session.display.revise set).display := by
  obtain ⟨-, -, -, -, -, ⟨-, hdisplay⟩ | ⟨hdisturbed, -⟩⟩ := next_of_finds hc
  · exact hdisplay
  · exact absurd hcalm hdisturbed

/-- **Trying again converges.**  After any calls, let attempts to lint a project follow, in which
the lint tool always finds the same run, while the editor may refuse a publication at any place of
each attempt.  As soon as the editor refuses nothing in the last one, the display is the one that a
single undisturbed call would have led to.  In all attempts together, a file that was dirty and is
not reported has been sent the empty list once and nothing else, and a file that is reported without
diagnostics has been sent at most one publication. -/
theorem retry_converges (host : Host σ) (settings : Settings) (calls attempts : List (Call σ))
    (last calm : Call σ) (set : DiagnosticSet)
    (hfinds : ∀ c ∈ attempts ++ [last, calm], c.Finds host settings set) :
    let s := (after host settings calls).session
    let h := resume host s (attempts ++ [last])
    (resume host s attempts).Undisturbed host last → Undisturbed host ⟨s, []⟩ calm →
    h.session.display = (resume host s [calm]).session.display ∧
      (∀ p, s.display.isDirty p = true → set.contains p = false →
        ∃ q, about p h.lists = [(q, [])]) ∧
      (∀ p, set.find? p = some [] → (about p h.lists).length ≤ 1) := by
  intro s h hlast hcalm
  have hsettings : s.settings = settings := settings_after host settings calls
  have htidy : s.display.Tidy := (faithful_after host settings calls).replays.tidy
  have hfinds' : ∀ c ∈ attempts ++ [last, calm], c.Finds host s.settings set := hsettings ▸ hfinds
  have hrefl : s.display.Attempted set (lists ⟨s, []⟩) s.display := .refl s.display set
  -- all attempts but the last leave a way that ends where the first would have ended
  obtain ⟨hkept, hbefore⟩ := attempted_foldl (h := ⟨s, []⟩) htidy attempts
    (fun c hc => hfinds' c (List.mem_append_left _ hc)) hrefl
  have hend : h.session.display = (s.display.revise set).display := by
    have hstep : h = (resume host s attempts).next host last := List.foldl_append
    have hfindsLast := hfinds' last (by simp)
    rw [← hbefore.revise_eq, hstep]
    exact display_of_undisturbed (hkept.symm ▸ hfindsLast) hlast
  have hfindsAll : ∀ c ∈ attempts ++ [last], c.Finds host s.settings set := by
    intro c hc
    refine hfinds' c ?_
    rw [List.append_cons]
    exact List.mem_append_left _ hc
  obtain ⟨-, hall⟩ := attempted_foldl (h := ⟨s, []⟩) htidy (attempts ++ [last]) hfindsAll hrefl
  refine ⟨hend.trans (display_of_undisturbed (h := ⟨s, []⟩) (hfinds' calm (by simp)) hcalm).symm,
    fun p hdirty hp => ?_, fun p hp => hall.once p (by rw [DiagnosticSet.screen, hp]; rfl)⟩
  exact (hend ▸ hall).cleared_once hdirty hp

/-- A rehearsal in which two files are dirty, and the lint tool then only reports a third one,
without diagnostics.  The editor takes nothing in the first attempt, and two publications in the
second. -/
theorem retry_converges_rehearsed :
    let first : Call Rehearsal := ⟨.lintProject ⟨"a.js"⟩ false, ⟨[Rehearsal.complaints], 2⟩⟩
    let again (room : Nat) : Call Rehearsal :=
      ⟨.lintProject ⟨"a.js"⟩ false, ⟨[Rehearsal.relief], room⟩⟩
    let set := DiagnosticSet.empty.touch ⟨"/p/c.js"⟩
    let s := (after Rehearsal.host {} [first]).session
    let h := resume Rehearsal.host s ([again 0, again 2] ++ [again 9])
    (∀ c ∈ [again 0, again 2] ++ [again 9, again 3], c.Finds Rehearsal.host {} set) ∧
      (h.lists.map fun e => (e.1.text, e.2.length)) =
        [("/p/c.js", 0), ("/p/a.js", 0), ("/p/b.js", 0)] ∧
      h.session.display = (resume Rehearsal.host s [again 3]).session.display ∧
      (∃ q, about ⟨"/p/b.js"⟩ h.lists = [(q, [])]) ∧
      (about ⟨"/p/c.js"⟩ h.lists).length ≤ 1 := by
  intro first again set s h
  have hfinds : ∀ c ∈ [again 0, again 2] ++ [again 9, again 3],
      c.Finds Rehearsal.host {} set := by
    intro c hc
    simp only [List.cons_append, List.nil_append, List.mem_cons, List.not_mem_nil, or_false] at hc
    rcases hc with rfl | rfl | rfl | rfl <;>
      exact ⟨⟨"a.js"⟩, false, ⟨"/p/a.js"⟩, rfl, by decide +kernel, by decide +kernel⟩
  obtain ⟨hlists, hdirty, hlast, hcalm⟩ :
      (h.lists.map fun e => (e.1.text, e.2.length)) =
          [("/p/c.js", 0), ("/p/a.js", 0), ("/p/b.js", 0)] ∧
        s.display.isDirty ⟨"/p/b.js"⟩ = true ∧
        (resume Rehearsal.host s [again 0, again 2]).Undisturbed Rehearsal.host (again 9) ∧
        Undisturbed Rehearsal.host ⟨s, []⟩ (again 3) := by
    decide +kernel
  have hlaw := retry_converges Rehearsal.host {} [first] [again 0, again 2] (again 9) (again 3) set
    hfinds
  have hs : (after Rehearsal.host {} [first]).session = s := rfl
  have hh : resume Rehearsal.host s ([again 0, again 2] ++ [again 9]) = h := rfl
  dsimp only at hlaw
  rw [hs, hh] at hlaw
  obtain ⟨hdisplay, hclears, hempties⟩ := hlaw hlast hcalm
  exact ⟨hfinds, hlists, hdisplay, hclears _ hdirty (by decide +kernel),
    hempties _ (by decide +kernel)⟩

end History

end LintBridge
