/-
# The way to a run is exact

Bringing a display up to date sends what is needed and nothing else: whatever was untracked, clean
or dirty before, and absent, empty or full in the run.

* `Display.find?_showing`: what the new display says of a file.
* `Display.latest_changes`: what the changes send for a file.
* `Display.revise_exact`: the changes lead to what the run shows, no file is sent twice, updates
  come before clears, and both are in path order.
-/
import LintBridge.Display.Revision
import LintBridge.Proofs.Display.Replay

namespace LintBridge

/-- What an editor shows in each file. -/
abbrev Screen : Type := Path → List Diagnostic

namespace Screen

/-- The screen after a list has been published for a file. -/
def put (s : Screen) (e : Path × List Diagnostic) : Screen := fun p =>
  if e.1.Same p then e.2 else s p

/-- The screen after lists have been published for files, one after the other. -/
def after (s : Screen) (l : List (Path × List Diagnostic)) : Screen := l.foldl put s

lemma after_apply (s : Screen) (l : List (Path × List Diagnostic)) (p : Path) :
    s.after l p = (latest p l).getD (s p) := by
  induction l generalizing s with
  | nil => rfl
  | cons x rest ih =>
    have hlatest : latest p (x :: rest) = (latest p rest).or (latest p [x]) :=
      latest_append (l := [x])
    rw [after, List.foldl_cons, ← after, ih, hlatest]
    by_cases hx : x.1.Same p
    · have hone : latest p [x] = some x.2 := by simp [latest, about, hx]
      rw [hone, put, if_pos hx]
      cases latest p rest <;> rfl
    · have hone : latest p [x] = none := by simp [latest, about, hx]
      rw [hone, put, if_neg hx, Option.or_none]

end Screen

/-- What a run shows: its lists, and nothing in the other files. -/
def DiagnosticSet.screen (s : DiagnosticSet) : Screen := fun p => (s.find? p).getD []

lemma DiagnosticSet.screen_same (s : DiagnosticSet) {p q : Path} (h : p.Same q) :
    s.screen p = s.screen q :=
  congrArg (Option.getD · []) (PathMap.find?_same h s.files)

namespace Display

variable {d : Display} {next : DiagnosticSet} {p : Path}

/-- What a display shows: its lists, and nothing in the other files. -/
def screen (d : Display) : Screen := fun p => (d.diagnostics? p).getD []

/-- The displays that are made by publishing lists and by bringing displays up to date. -/
inductive Built : Display → Prop
  | empty : Built empty
  | record {d : Display} (h : Built d) (p : Path) (l : List Diagnostic) : Built (d.record p l)
  | revise {d : Display} (h : Built d) (next : DiagnosticSet) : Built (d.revise next).display

/-- The changes come in path order. -/
def Increasing (changes : List Change) : Prop :=
  changes.Pairwise fun a b => a.path.order b.path = .lt

/-! ## The new display -/

/-- Whether a run leaves a file out does not depend on the spelling. -/
lemma not_contains_same (next : DiagnosticSet) {q : Path} (h : q.Same p) :
    (!next.contains q) = !next.contains p :=
  congrArg _ (PathMap.contains_same h)

lemma spelled_missing (d : Display) (next : DiagnosticSet) (p : Path) :
    spelled p (d.missing next) = (d.files.contains p && !next.contains p) := by
  rw [missing, spelled_filter fun _ h => not_contains_same next h, PathMap.contains_eq_spelled]

/-- The new display has the lists of the run, and marks every other file clean that was ever
published. -/
lemma find?_showing (d : Display) (next : DiagnosticSet) (p : Path) :
    (d.showing next).files.find? p =
      match next.find? p with
      | some l => some (entry l)
      | none => if d.files.contains p = true then some none else none := by
  have hnext : latest p next.toList = next.find? p := PathMap.latest_entries next.files
  rw [showing, find?_recordAll, find?_recordAll, latest_map_const, hnext, spelled_missing,
    empty, PathMap.find?_empty]
  cases hl : next.find? p with
  | some l =>
    have hcontains : next.contains p = true := PathMap.contains_of_find? hl
    simp [hcontains]
  | none =>
    have hcontains : next.contains p = false := PathMap.contains_eq_false_iff.2 hl
    by_cases hd : d.files.contains p = true <;> simp [hcontains, hd]

lemma tidy_showing (d : Display) (next : DiagnosticSet) : (d.showing next).Tidy :=
  (tidy_empty.recordAll _).recordAll _

lemma Built.tidy (h : d.Built) : d.Tidy := by
  induction h with
  | empty => exact tidy_empty
  | record _ p l ih => exact ih.record p l
  | revise _ next _ => exact tidy_showing _ next

/-! ## The changes -/

lemma map_content_updates (d : Display) (next : DiagnosticSet) :
    (d.updates next).map Change.content = next.toList.filter fun e => d.needsPublish e.1 e.2 := by
  rw [updates, List.map_map]
  exact List.map_id _

lemma map_content_clears (d : Display) (next : DiagnosticSet) :
    (d.clears next).map Change.content =
      (d.dirtyFiles.filter fun p => !next.contains p).map fun p => (p, []) := by
  rw [clears, List.map_map]
  rfl

lemma mem_updates {c : Change} :
    c ∈ d.updates next ↔
      (c.path, c.diagnostics) ∈ next.toList ∧ d.needsPublish c.path c.diagnostics = true ∧
        c.clear = false := by
  simp only [updates, List.mem_map, List.mem_filter]
  constructor
  · rintro ⟨e, ⟨he, hneeds⟩, rfl⟩
    exact ⟨he, hneeds, rfl⟩
  · rintro ⟨he, hneeds, hclear⟩
    exact ⟨_, ⟨he, hneeds⟩, by cases c; cases hclear; rfl⟩

lemma spelled_dirtyFiles (d : Display) (p : Path) : spelled p d.dirtyFiles = d.isDirty p := by
  rw [Bool.eq_iff_iff, spelled_iff, isDirty_iff]
  simp only [dirtyFiles, List.mem_map, List.mem_filter]
  constructor
  · rintro ⟨q, ⟨⟨r, v⟩, ⟨he, hv⟩, rfl⟩, hs⟩
    obtain ⟨l, rfl, hl⟩ := (Option.any_eq_true ..).1 hv
    exact ⟨l, PathMap.find?_of_mem he hs, by simpa using hl⟩
  · rintro ⟨l, hl, hne⟩
    obtain ⟨q, hq, hs⟩ := PathMap.mem_of_find? hl
    exact ⟨q, ⟨(q, some l), ⟨hq, by simpa using hne⟩, rfl⟩, hs⟩

/-- The dirty files come in path order. -/
lemma increasing_dirtyFiles (d : Display) :
    d.dirtyFiles.Pairwise fun p q => p.order q = .lt := by
  rw [dirtyFiles, List.pairwise_map]
  exact d.files.ordered.filter _

lemma isDirty_of_mem_dirtyFiles (h : p ∈ d.dirtyFiles) : d.isDirty p = true :=
  spelled_dirtyFiles d p ▸ spelled_of_mem h

lemma mem_clears {c : Change} :
    c ∈ d.clears next ↔
      c.path ∈ d.dirtyFiles ∧ next.contains c.path = false ∧ c.diagnostics = [] ∧
        c.clear = true := by
  simp only [clears, List.mem_map, List.mem_filter, Bool.not_eq_true']
  constructor
  · rintro ⟨q, ⟨hq, hnext⟩, rfl⟩
    exact ⟨hq, hnext, rfl, rfl⟩
  · rintro ⟨hq, hnext, hl, hclear⟩
    exact ⟨c.path, ⟨hq, hnext⟩, by cases c; cases hl; cases hclear; rfl⟩

lemma mem_changes {c : Change} :
    c ∈ (d.revise next).changes ↔ c ∈ d.updates next ∨ c ∈ d.clears next :=
  List.mem_append

/-- Nothing is sent that changes nothing. -/
lemma needsPublish_of_mem_changes {c : Change} (h : c ∈ (d.revise next).changes) :
    d.needsPublish c.path c.diagnostics = true := by
  rcases mem_changes.1 h with h | h
  · exact (mem_updates.1 h).2.1
  · have hdirty := isDirty_of_mem_dirtyFiles (mem_clears.1 h).1
    rw [needsPublish, isClean_of_isDirty hdirty, Bool.and_false, Bool.not_false]

/-- A file is only cleared if it is dirty. -/
lemma isDirty_of_clear {c : Change} (h : c ∈ (d.revise next).changes) (hc : c.clear = true) :
    d.isDirty c.path = true := by
  rcases mem_changes.1 h with h | h
  · exact absurd ((mem_updates.1 h).2.2.symm.trans hc) Bool.false_ne_true
  · exact isDirty_of_mem_dirtyFiles (mem_clears.1 h).1

lemma increasing_updates (d : Display) (next : DiagnosticSet) : Increasing (d.updates next) := by
  rw [Increasing, updates, List.pairwise_map]
  exact next.files.ordered.filter _

lemma increasing_clears (d : Display) (next : DiagnosticSet) : Increasing (d.clears next) := by
  rw [Increasing, clears, List.pairwise_map]
  exact d.increasing_dirtyFiles.filter _

lemma Increasing.distinct {changes : List Change} (h : Increasing changes) :
    Distinct (changes.map Change.content) :=
  Ordered.distinct (List.pairwise_map.2 h)

/-- No file is sent twice. -/
lemma distinct_changes (d : Display) (next : DiagnosticSet) :
    Distinct ((d.revise next).changes.map Change.content) := by
  rw [revise, List.map_append]
  refine List.pairwise_append.2
    ⟨(increasing_updates d next).distinct, (increasing_clears d next).distinct, ?_⟩
  -- an update is for a file of the run, a clear is not
  intro a ha b hb hs
  obtain ⟨u, hu, rfl⟩ := List.mem_map.1 ha
  obtain ⟨c, hc, rfl⟩ := List.mem_map.1 hb
  have hu' : next.contains u.path = true := PathMap.contains_of_mem (mem_updates.1 hu).1
  have hc' : next.contains c.path = false := (mem_clears.1 hc).2.1
  have hsame : next.contains u.path = next.contains c.path := PathMap.contains_same hs
  rw [hu', hc'] at hsame
  exact Bool.false_ne_true hsame.symm

/-- What is sent for a file: its list in the run if that is worth it, or else the empty list if the
file is dirty. -/
lemma latest_changes (d : Display) (next : DiagnosticSet) (p : Path) :
    latest p ((d.revise next).changes.map Change.content) =
      match next.find? p with
      | some l => if d.needsPublish p l = true then some l else none
      | none => if d.isDirty p = true then some [] else none := by
  have hupdates : latest p ((d.updates next).map Change.content) =
      (next.find? p).filter (d.needsPublish p) := by
    have hnext : latest p next.toList = next.find? p := PathMap.latest_entries next.files
    rw [map_content_updates, ← hnext]
    exact latest_filter next.files.ordered.distinct _ _ fun e _ hs => needsPublish_same hs e.2
  have hclears : latest p ((d.clears next).map Change.content) =
      if (d.isDirty p && !next.contains p) = true then some [] else none := by
    rw [map_content_clears, latest_map_const, spelled_filter fun _ h => not_contains_same next h,
      spelled_dirtyFiles]
  rw [revise, List.map_append, latest_append, hupdates, hclears]
  -- a file of the run is never cleared, and any other one is never updated
  cases hl : next.find? p with
  | some l =>
    have hcontains : next.contains p = true := PathMap.contains_of_find? hl
    simp [hcontains, Option.filter_some]
  | none =>
    have hcontains : next.contains p = false := PathMap.contains_eq_false_iff.2 hl
    simp [hcontains]

/-- The files that are sent because the run reports them. -/
lemma exists_update_iff {l : List Diagnostic} (hl : next.find? p = some l) :
    (∃ c ∈ (d.revise next).changes, c.clear = false ∧ c.path.Same p) ↔
      ¬(l = [] ∧ d.isClean p = true) := by
  rw [← not_needsPublish_iff, not_not]
  constructor
  · rintro ⟨c, hc, hclear, hs⟩
    rcases mem_changes.1 hc with hc | hc
    · obtain ⟨hmem, hneeds, -⟩ := mem_updates.1 hc
      have hfound : next.find? p = some c.diagnostics := PathMap.find?_of_mem hmem hs
      have heq : l = c.diagnostics := Option.some.inj (hl.symm.trans hfound)
      rw [heq, ← needsPublish_same hs]
      exact hneeds
    · exact absurd (hclear.symm.trans (mem_clears.1 hc).2.2.2) Bool.false_ne_true
  · intro hneeds
    obtain ⟨q, hq, hs⟩ := PathMap.mem_of_find? hl
    refine ⟨⟨q, l, false⟩, mem_changes.2 (.inl (mem_updates.2 ⟨hq, ?_, rfl⟩)), rfl, hs⟩
    rw [needsPublish_same hs]
    exact hneeds

/-- The files that are sent because the run does not report them. -/
lemma exists_clear_iff :
    (∃ c ∈ (d.revise next).changes, c.clear = true ∧ c.path.Same p) ↔
      d.isDirty p = true ∧ next.contains p = false := by
  constructor
  · rintro ⟨c, hc, hclear, hs⟩
    have hdirty := isDirty_of_clear hc hclear
    rcases mem_changes.1 hc with hc | hc
    · exact absurd ((mem_updates.1 hc).2.2.symm.trans hclear) Bool.false_ne_true
    · rw [← isDirty_same hs, ← (mem_clears.1 hc).2.1]
      exact ⟨hdirty, PathMap.contains_same hs.symm⟩
  · rintro ⟨hdirty, hnext⟩
    rw [← spelled_dirtyFiles] at hdirty
    obtain ⟨q, hq, hs⟩ := spelled_iff.1 hdirty
    refine ⟨⟨q, [], true⟩, mem_changes.2 (.inr (mem_clears.2 ⟨hq, ?_, rfl, rfl⟩)), rfl, hs⟩
    rw [← hnext]
    exact PathMap.contains_same hs

/-! ## What the changes lead to -/

lemma screen_of_isClean (h : d.isClean p = true) : d.screen p = [] := by
  rw [screen, diagnostics?, isClean_iff.1 h]
  rfl

lemma screen_of_not_isDirty (h : ¬d.isDirty p = true) : d.screen p = [] := by
  rw [screen]
  cases hl : d.diagnostics? p with
  | none => rfl
  | some l =>
    by_contra hne
    exact h (isDirty_iff.2 ⟨l, diagnostics?_eq_some_iff.1 hl, hne⟩)

/-- The changes turn what is shown into what the run shows. -/
lemma screen_after_changes (d : Display) (next : DiagnosticSet) :
    d.screen.after ((d.revise next).changes.map Change.content) = next.screen := by
  funext p
  rw [Screen.after_apply, latest_changes, DiagnosticSet.screen]
  cases hl : next.find? p with
  | some l =>
    by_cases hneeds : d.needsPublish p l = true
    · simp [hneeds]
    · obtain ⟨rfl, hclean⟩ := not_needsPublish_iff.1 hneeds
      simp [hneeds, screen_of_isClean hclean]
  | none =>
    by_cases hdirty : d.isDirty p = true
    · simp [hdirty]
    · simp [hdirty, screen_of_not_isDirty hdirty]

lemma screen_showing (d : Display) (next : DiagnosticSet) :
    (d.showing next).screen = next.screen := by
  funext p
  rw [screen, diagnostics?, find?_showing, DiagnosticSet.screen]
  cases next.find? p with
  | some l => cases l <;> rfl
  | none => by_cases hd : d.files.contains p = true <;> simp [hd]

/-- The new display is the old one after the changes.  An untidy display could keep an empty list
that the new one does not have. -/
lemma Tidy.revise_agrees (h : d.Tidy) (next : DiagnosticSet) :
    (d.revise next).display.Agrees (d.apply (d.revise next).changes) := by
  intro p
  rw [apply, find?_recordAll, latest_changes, revise, find?_showing]
  cases hl : next.find? p with
  | some l =>
    by_cases hneeds : d.needsPublish p l = true
    · simp [hneeds]
    · obtain ⟨rfl, hclean⟩ := not_needsPublish_iff.1 hneeds
      simp [hneeds, isClean_iff.1 hclean]
  | none =>
    -- untracked, clean and dirty files that the run does not report
    rcases hfound : d.files.find? p with _ | _ | l
    · have hnone : d.files.contains p = false := PathMap.contains_eq_false_iff.2 hfound
      simp [isDirty, diagnostics?, hfound, hnone]
    · have hsome : d.files.contains p = true := PathMap.contains_of_find? hfound
      simp [isDirty, diagnostics?, hfound, hsome]
    · have hsome : d.files.contains p = true := PathMap.contains_of_find? hfound
      have hne : l ≠ [] := fun hnil => h p (hnil ▸ hfound)
      simp [isDirty, diagnostics?, hfound, hsome, hne]

/-- No file is forgotten. -/
lemma contains_revise (next : DiagnosticSet) (h : d.files.contains p = true) :
    (d.revise next).display.files.contains p = true := by
  have hne : (d.revise next).display.files.find? p ≠ none := by
    rw [revise, find?_showing]
    cases next.find? p <;> simp [h]
  obtain ⟨x, hx⟩ := Option.ne_none_iff_exists'.1 hne
  exact PathMap.contains_of_find? hx

/-! ## Ways to a run -/

/-- The way from a display to the one that shows a run in one file. -/
def reviseFile (d : Display) (next : DiagnosticSet) (p : Path) : Revision :=
  let l := (next.find? p).getD []
  let changes : List Change := if d.needsPublish p l then [⟨p, l, false⟩] else []
  ⟨changes, d.apply changes⟩

/-- A way from a display to one that shows a run, in one file or in all. -/
def Way (d : Display) (next : DiagnosticSet) (r : Revision) : Prop :=
  r = d.revise next ∨ ∃ p, r = d.reviseFile next p

variable {r : Revision}

lemma mem_reviseFile {c : Change} (h : c ∈ (d.reviseFile next p).changes) :
    c = ⟨p, (next.find? p).getD [], false⟩ ∧
      d.needsPublish p ((next.find? p).getD []) = true := by
  simp only [reviseFile] at h
  split at h
  next hneeds => exact ⟨List.mem_singleton.1 h, hneeds⟩
  next => exact absurd h List.not_mem_nil

/-- The way to a run in one file enters the list of this file, and leaves the other files alone. -/
lemma find?_reviseFile (d : Display) (next : DiagnosticSet) (p q : Path) :
    (d.reviseFile next p).display.files.find? q =
      if p.Same q then some (entry (next.screen p)) else d.files.find? q := by
  rw [reviseFile, DiagnosticSet.screen]
  by_cases hneeds : d.needsPublish p ((next.find? p).getD []) = true
  · rw [if_pos hneeds]
    exact d.find?_record p q _
  · obtain ⟨hempty, hclean⟩ := not_needsPublish_iff.1 hneeds
    rw [if_neg hneeds, hempty, entry_nil, apply]
    split
    next hs => exact (PathMap.find?_same hs d.files).symm.trans (isClean_iff.1 hclean)
    next => rfl

/-- The way to a run in one file changes what is shown in this file. -/
lemma screen_reviseFile (d : Display) (next : DiagnosticSet) (p : Path) :
    (d.reviseFile next p).display.screen = d.screen.put (p, next.screen p) := by
  funext q
  rw [screen, diagnostics?, find?_reviseFile, Screen.put]
  split
  next => cases next.screen p <;> rfl
  next => rfl

/-- Nothing is sent that changes nothing. -/
lemma Way.needsPublish (h : d.Way next r) {c : Change} (hc : c ∈ r.changes) :
    d.needsPublish c.path c.diagnostics = true := by
  rcases h with rfl | ⟨p, rfl⟩
  · exact needsPublish_of_mem_changes hc
  · obtain ⟨rfl, hneeds⟩ := mem_reviseFile hc
    exact hneeds

/-- No file is sent twice. -/
lemma Way.distinct (h : d.Way next r) : Distinct (r.changes.map Change.content) := by
  rcases h with rfl | ⟨p, rfl⟩
  · exact distinct_changes d next
  · rw [Distinct, List.pairwise_map, reviseFile]
    split
    · exact List.pairwise_singleton ..
    · exact List.Pairwise.nil

/-- The display at the end of a way is the one at its start after the changes. -/
lemma Way.agrees (h : d.Way next r) (hd : d.Tidy) : r.display.Agrees (d.apply r.changes) := by
  rcases h with rfl | ⟨p, rfl⟩
  · exact hd.revise_agrees next
  · exact fun _ => rfl

/-! ## The result -/

/-- **Bringing a display up to date is exact, minimal and ordered.**  The changes turn what the
display shows into what the run shows, and the new display is the old one after them.  No file is
sent twice, under any spelling.  The updates come first, then the clears, both in path order.
An update is left out exactly for a clean file that the run reports without diagnostics, and a clear
is sent exactly for a dirty file that the run does not report; no file is forgotten. -/
theorem revise_exact (h : d.Built) (next : DiagnosticSet) :
    let r := d.revise next
    (d.screen.after (r.changes.map Change.content) = next.screen ∧
      r.display.screen = next.screen ∧ r.display.Agrees (d.apply r.changes)) ∧
    (r.changes.Pairwise fun a b => ¬a.path.Same b.path) ∧
    (∃ updates clears, r.changes = updates ++ clears ∧
      (∀ c ∈ updates, c.clear = false ∧ next.find? c.path = some c.diagnostics) ∧
      (∀ c ∈ clears, c.clear = true ∧ c.diagnostics = []) ∧
      Increasing updates ∧ Increasing clears) ∧
    (∀ p l, next.find? p = some l →
      ((∃ c ∈ r.changes, c.clear = false ∧ c.path.Same p) ↔ ¬(l = [] ∧ d.isClean p = true))) ∧
    (∀ p, (∃ c ∈ r.changes, c.clear = true ∧ c.path.Same p) ↔
      d.isDirty p = true ∧ next.contains p = false) ∧
    (∀ p, d.files.contains p = true → r.display.files.contains p = true) := by
  refine ⟨⟨screen_after_changes d next, screen_showing d next, h.tidy.revise_agrees next⟩,
    List.pairwise_map.1 (distinct_changes d next), ⟨d.updates next, d.clears next, rfl, ?_, ?_,
      increasing_updates d next, increasing_clears d next⟩,
    fun p l hl => exists_update_iff hl, fun p => exists_clear_iff, fun p => contains_revise next⟩
  · intro c hc
    obtain ⟨hmem, -, hclear⟩ := mem_updates.1 hc
    exact ⟨hclear, PathMap.find?_of_mem hmem (.refl c.path)⟩
  · intro c hc
    obtain ⟨-, -, hl, hclear⟩ := mem_clears.1 hc
    exact ⟨hclear, hl⟩

/-- The display of three files of which the first and the last are dirty. -/
def threeFiles (d : Diagnostic) : Display :=
  ((empty.record ⟨"/p/a.js"⟩ [d]).record ⟨"/p/b.js"⟩ []).record ⟨"/p/c.js"⟩ [d]

/-- A run that reports the first two files without diagnostics, and a new one with one. -/
def rerun (d : Diagnostic) : DiagnosticSet :=
  ((DiagnosticSet.empty.touch ⟨"/p//a.js"⟩).touch ⟨"/p/./b.js"⟩).push ⟨"/p/d.js"⟩ d

lemma built_threeFiles (d : Diagnostic) : (threeFiles d).Built :=
  ((Built.empty.record _ _).record _ _).record _ _

/-- The three files are brought up to date with the run: the first is updated, the second stays as
it is, and the third is cleared. -/
theorem revise_exact_rerun :
    let d : Diagnostic := .warning "odd" (.point ⟨0, 0⟩)
    let r := (threeFiles d).revise (rerun d)
    (threeFiles d).Built ∧
      r.changes = [⟨⟨"/p//a.js"⟩, [], false⟩, ⟨⟨"/p/d.js"⟩, [d], false⟩, ⟨⟨"/p/c.js"⟩, [], true⟩] ∧
      r.display.screen = (rerun d).screen ∧ r.display.files.contains ⟨"/p/c.js"⟩ = true := by
  intro d r
  have hbuilt := built_threeFiles d
  obtain ⟨⟨-, hscreen, -⟩, -, -, -, -, hkept⟩ := revise_exact hbuilt (rerun d)
  exact ⟨hbuilt, by decide +kernel, hscreen, hkept _ (by decide +kernel)⟩

end Display

end LintBridge
