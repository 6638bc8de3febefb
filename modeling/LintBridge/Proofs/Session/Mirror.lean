/-
# The editor and the display

A session never sees the editor, and only knows which publications were taken.  Its display still
says what the editor shows, after any calls of its operations, whatever the lint tool answered and
whichever publications the editor refused.

* `History.display_eq_replay`: the display is the replay of the publications that the editor has
  taken.
* `History.clears_once`: no file is sent the empty list twice in a row, and a file is only cleared
  if the last list it was sent is not empty.

The invariant of a history is `History.Faithful`.  It holds of a new session and is kept by every
course, because a course sends changes of a way: each is worth sending to the display of the moment,
and no two are for the same file.
-/
import LintBridge.Proofs.Session.Course
import Mathlib.Data.List.Chain

namespace LintBridge

variable {σ : Type} {host : Host σ}

/-- What the editor takes in a course are changes of a way, all of them worth sending, and the
display afterwards is the one before with these changes. -/
lemma Course.sends {s s' : Session} {result : Except Failure Outcome} {contacts : List Contact}
    (h : Course host s result s' contacts) (hd : s.display.Tidy) :
    ∃ changes : List Change, taken contacts = changes.map s.message ∧
      Distinct (changes.map Change.content) ∧
      (∀ c ∈ changes, s.display.needsPublish c.path c.diagnostics = true) ∧
      s'.display.Agrees (s.display.apply changes) := by
  have hnothing : Distinct (([] : List Change).map Change.content) := List.Pairwise.nil
  cases h with
  | skipped reason target => exact ⟨[], rfl, hnothing, by simp, fun _ => rfl⟩
  | stuck e target => exact ⟨[], rfl, hnothing, by simp, fun _ => rfl⟩
  | failed target hcall hreading => exact ⟨[], rfl, hnothing, by simp, fun _ => rfl⟩
  | @refused call answer set r before after c e target hcall hreading hway hsplit hrefusal =>
    refine ⟨before, by simp, ?_, ?_, fun _ => rfl⟩
    · have hdistinct := hway.distinct
      rw [hsplit, List.map_append] at hdistinct
      exact (List.pairwise_append.1 hdistinct).1
    · intro x hx
      exact hway.needsPublish (hsplit ▸ List.mem_append_left _ hx)
  | @published call answer set r target hcall hreading hway =>
    exact ⟨r.changes, by simp, hway.distinct, fun c hc => hway.needsPublish hc, hway.agrees hd⟩

/-- A file that is dirty before a course and not afterwards is sent the empty list in it, once, and
nothing else. -/
lemma Course.cleared {s s' : Session} {result : Except Failure Outcome} {contacts : List Contact}
    (h : Course host s result s' contacts) (hd : s.display.Tidy) {p : Path}
    (hdirty : s.display.isDirty p = true) (hnow : s'.display.isDirty p = false) :
    ∃ q, about p ((taken contacts).map Publication.content) = [(q, [])] := by
  obtain ⟨changes, htaken, hdistinct, -, hagrees⟩ := h.sends hd
  have hlists : (taken contacts).map Publication.content = changes.map Change.content := by
    rw [htaken, List.map_map]
    rfl
  rw [hlists]
  exact Display.about_of_cleared hagrees (about_length_le_one hdistinct) hdirty hnow

namespace History

/-- The settings are those of the new session. -/
lemma settings_after (host : Host σ) (settings : Settings) (calls : List (Call σ)) :
    (after host settings calls).session.settings = settings := by
  rw [after]
  generalize hstart : (⟨.start settings, []⟩ : History) = h
  have hs : h.session.settings = settings := by rw [← hstart]; rfl
  clear hstart
  induction calls generalizing h with
  | nil => exact hs
  | cons c rest ih =>
    obtain ⟨_, _, htakes, -⟩ := h.session.perform_takes host ⟨c.world, h.log⟩ c.operation
    exact ih (h.next host c) (htakes.course.settings_eq.trans hs)

/-! ## The invariant -/

/-- The display is the replay of the lists that the editor has taken, and none of them repeats the
empty list for a file. -/
structure Faithful (h : History) : Prop where
  replays : h.session.display.Replays h.lists
  spaced : ∀ p, (about p h.lists).IsChain fun a b => ¬(a.2 = [] ∧ b.2 = [])

lemma faithful_start (settings : Settings) : Faithful ⟨.start settings, []⟩ where
  replays := Display.replays_empty
  spaced _ := List.IsChain.nil

/-- A list that is worth sending does not repeat the empty list. -/
lemma Faithful.not_repeated {h : History} (hf : h.Faithful) {p : Path} {l : List Diagnostic}
    (hneeds : h.session.display.needsPublish p l = true) (hlatest : latest p h.lists = some []) :
    l ≠ [] := by
  rintro rfl
  have hclean : h.session.display.isClean p = true := hf.replays.isClean_iff.2 hlatest
  exact Display.not_needsPublish_iff.2 ⟨rfl, hclean⟩ hneeds

lemma Faithful.next {h : History} (hf : h.Faithful) (c : Call σ) : (h.next host c).Faithful := by
  obtain ⟨result, contacts, htakes, -⟩ :=
    h.session.perform_takes host ⟨c.world, h.log⟩ c.operation
  obtain ⟨changes, htaken, hdistinct, hneeds, hagrees⟩ := htakes.course.sends hf.replays.tidy
  have hlists : (h.next host c).lists = h.lists ++ changes.map Change.content := by
    rw [lists, History.next, htakes.log_eq, taken_append, List.map_append, htaken, List.map_map]
    rfl
  constructor
  · rw [hlists]
    exact (hf.replays.recordAll _).agrees hagrees
  · intro p
    rw [hlists, about_append]
    -- the empty list could be repeated within the changes, or where they follow the old lists
    refine (hf.spaced p).append ?_ ?_
    · -- at most one of the changes is for the file
      rcases hnew : about p (changes.map Change.content) with _ | ⟨e, rest⟩
      · exact List.IsChain.nil
      · have hone := about_length_le_one (p := p) hdistinct
        rw [hnew, List.length_cons] at hone
        rw [List.length_eq_zero_iff.1 (by omega : rest.length = 0)]
        exact List.IsChain.singleton e
    · rintro a ha b hb ⟨ha', hb'⟩
      obtain ⟨hmem, hs⟩ := mem_about.1 (List.mem_of_head? hb)
      obtain ⟨x, hx, rfl⟩ := List.mem_map.1 hmem
      have hneeds' : h.session.display.needsPublish p x.diagnostics = true := by
        rw [← Display.needsPublish_same hs]
        exact hneeds x hx
      have hlatest : latest p h.lists = some [] := by
        rw [latest, Option.mem_def.1 ha]
        exact congrArg some ha'
      exact hf.not_repeated hneeds' hlatest hb'

/-- The invariant holds after any calls. -/
lemma faithful_after (host : Host σ) (settings : Settings) (calls : List (Call σ)) :
    (after host settings calls).Faithful := by
  rw [after]
  generalize hstart : (⟨.start settings, []⟩ : History) = h
  have hf : h.Faithful := hstart ▸ faithful_start settings
  clear hstart
  -- the start is only one of the histories that are faithful
  induction calls generalizing h with
  | nil => exact hf
  | cons c rest ih => exact ih (h.next host c) (hf.next c)

/-! ## The laws -/

/-- **The display mirrors the editor.**  After any calls, in surroundings that may change between
them, a file is unknown to the display exactly if the editor took no publication for it, clean
exactly if the last one that the editor took for it is empty, and shown with a list exactly if this
is the list of the last one, and not empty. -/
theorem display_eq_replay (host : Host σ) (settings : Settings) (calls : List (Call σ)) (p : Path) :
    let h := after host settings calls
    (h.session.display.files.contains p = false ↔ latest p h.lists = none) ∧
    (h.session.display.isClean p = true ↔ latest p h.lists = some []) ∧
    (∀ l, h.session.display.diagnostics? p = some l ↔ latest p h.lists = some l ∧ l ≠ []) := by
  have hf := faithful_after host settings calls
  exact ⟨hf.replays.contains_eq_false_iff, hf.replays.isClean_iff,
    fun l => hf.replays.diagnostics?_eq_some_iff⟩

/-- **A file is cleared once.**  After any calls, no two publications in a row that the editor took
for one file are both empty.  And whatever run the display is brought up to date with next, when
the clear of a file is due, after the changes before it, then the last publication that the editor
took for the file is not empty. -/
theorem clears_once (host : Host σ) (settings : Settings) (calls : List (Call σ)) :
    let h := after host settings calls
    (∀ p, (about p h.lists).IsChain fun a b => ¬(a.2 = [] ∧ b.2 = [])) ∧
    (∀ (next : DiagnosticSet) (before rest : List Change) (c : Change),
      (h.session.display.revise next).changes = before ++ c :: rest → c.clear = true →
        ∃ l, latest c.path (h.lists ++ before.map Change.content) = some l ∧ l ≠ []) := by
  intro h
  have hf : h.Faithful := faithful_after host settings calls
  refine ⟨hf.spaced, fun next before rest c hsplit hclear => ?_⟩
  have hmem : c ∈ (h.session.display.revise next).changes := by
    rw [hsplit]
    exact List.mem_append_right _ List.mem_cons_self
  obtain ⟨l, hl, hne⟩ := hf.replays.isDirty_iff.1 (Display.isDirty_of_clear hmem hclear)
  -- no earlier change is for the file
  have hdistinct := Display.distinct_changes h.session.display next
  rw [hsplit, List.map_append, Distinct, List.pairwise_append] at hdistinct
  have hnone : about c.path (before.map Change.content) = [] := by
    rw [about_eq_nil_iff]
    intro e he
    exact hdistinct.2.2 e he c.content List.mem_cons_self
  exact ⟨l, (latest_append_of_about_eq_nil hnone).trans hl, hne⟩

/-- A rehearsal in which two files are reported, then none, but the editor refuses to clear them,
and then none again.  The clears that were due after the second call are sent by the third. -/
theorem clears_once_rehearsed :
    let lint := Operation.lintProject ⟨"a.js"⟩ false
    let first : List (Call Rehearsal) := [⟨lint, ⟨[Rehearsal.complaints], 2⟩⟩, ⟨lint, ⟨[], 0⟩⟩]
    let h := after Rehearsal.host {} first
    let lists := (after Rehearsal.host {} (first ++ [⟨lint, ⟨[], 2⟩⟩])).lists
    (lists.map fun e => (e.1.text, e.2.length)) =
        [("/p/a.js", 1), ("/p/b.js", 1), ("/p/a.js", 0), ("/p/b.js", 0)] ∧
      (about ⟨"/p/b.js"⟩ lists).IsChain (fun a b => ¬(a.2 = [] ∧ b.2 = [])) ∧
      ∃ l, latest ⟨"/p/b.js"⟩ (h.lists ++ [(⟨"/p/a.js"⟩, [])]) = some l ∧ l ≠ [] := by
  intro lint first h lists
  obtain ⟨hspaced, -⟩ := clears_once Rehearsal.host {} (first ++ [⟨lint, ⟨[], 2⟩⟩])
  obtain ⟨-, hdue⟩ := clears_once Rehearsal.host {} first
  refine ⟨by decide +kernel, hspaced _, ?_⟩
  exact hdue .empty [⟨⟨"/p/a.js"⟩, [], true⟩] [] ⟨⟨"/p/b.js"⟩, [], true⟩ (by decide +kernel) rfl

end History

end LintBridge
