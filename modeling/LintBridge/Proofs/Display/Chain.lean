/-
# Runs one after another

A display that is brought up to date with several runs, one after another, shows the last of them.
Of the earlier runs it keeps nothing but the files that it has seen in them.

* `Display.reviseAll`: the display after several runs.
* `Display.dirty_showing`: the dirty files of a display that shows a run.
* `Display.revise_showing`: nothing changes when the same run comes again.
* `Display.reviseAll_forgets`: the law.
-/
import LintBridge.Proofs.Display.Interrupted
import LintBridge.Proofs.Report.Grouping

namespace LintBridge

namespace Display

variable {d : Display} {next : DiagnosticSet} {p : Path} {l : List Diagnostic}

/-- The display after it has been brought up to date with several runs, one after another. -/
def reviseAll (d : Display) (runs : List DiagnosticSet) : Display :=
  runs.foldl (fun d next => (d.revise next).display) d

lemma reviseAll_concat (d : Display) (runs : List DiagnosticSet) (last : DiagnosticSet) :
    d.reviseAll (runs ++ [last]) = (d.reviseAll runs).showing last := by
  rw [reviseAll, List.foldl_concat]
  rfl

/-! ## The files -/

lemma contains_showing :
    (d.showing next).files.contains p = true ↔
      d.files.contains p = true ∨ next.contains p = true := by
  rw [PathMap.contains, find?_showing]
  cases hl : next.find? p with
  | some l =>
    have hnext : next.contains p = true := PathMap.contains_of_find? hl
    simp [hnext]
  | none =>
    have hnext : next.contains p = false := PathMap.contains_eq_false_iff.2 hl
    by_cases hd : d.files.contains p = true <;> simp [hnext, hd]

/-- No run makes a file untracked. -/
lemma contains_reviseAll (runs : List DiagnosticSet) :
    (d.reviseAll runs).files.contains p = true ↔
      d.files.contains p = true ∨ ∃ next ∈ runs, next.contains p = true := by
  induction runs generalizing d with
  | nil => simp [reviseAll]
  | cons first rest ih =>
    have hcons : d.reviseAll (first :: rest) = (d.showing first).reviseAll rest := rfl
    rw [hcons, ih, contains_showing]
    simp [or_assoc]

/-! ## A display that shows a run -/

lemma diagnostics?_showing :
    (d.showing next).diagnostics? p = some l ↔ next.find? p = some l ∧ l ≠ [] := by
  rw [diagnostics?_eq_some_iff, find?_showing]
  cases next.find? p with
  | none => by_cases hd : d.files.contains p = true <;> simp [hd]
  | some l' =>
    rw [Option.some.injEq, Option.some.injEq, entry_eq_some_iff]

/-- A list that is shown is entered in the display as it is in the run. -/
lemma mem_entries_showing :
    (p, some l) ∈ (d.showing next).files.entries ↔ (p, l) ∈ next.filled := by
  rw [DiagnosticSet.mem_filled]
  constructor
  · intro hmem
    have hfound : (d.showing next).files.find? p = some (some l) :=
      PathMap.find?_of_mem hmem (.refl p)
    obtain ⟨hnext, hne⟩ := diagnostics?_showing.1 (diagnostics?_eq_some_iff.2 hfound)
    refine ⟨?_, hne⟩
    -- the key is one of the run, as its file is not missing
    have hkey : p ∈ (d.showing next).files.keys := List.mem_map.2 ⟨_, hmem, rfl⟩
    have hkey' : p ∈ next.files.keys := by
      refine (mem_keys_showing.1 hkey).resolve_right fun hmissing => ?_
      have hcontains : next.contains p = true := PathMap.contains_of_find? hnext
      exact absurd ((mem_missing.1 hmissing).2.symm.trans hcontains) Bool.false_ne_true
    obtain ⟨⟨q, l'⟩, hmem', rfl⟩ := List.mem_map.1 hkey'
    have hfound' : next.find? q = some l' := PathMap.find?_of_mem hmem' (.refl q)
    obtain rfl : l' = l := Option.some.inj (hfound'.symm.trans hnext)
    exact hmem'
  · rintro ⟨hmem, hne⟩
    have hkey : p ∈ (d.showing next).files.keys :=
      mem_keys_showing.2 (.inl (List.mem_map.2 ⟨_, hmem, rfl⟩))
    obtain ⟨⟨q, v⟩, hmem', rfl⟩ := List.mem_map.1 hkey
    have hnext : next.find? q = some l := PathMap.find?_of_mem hmem (.refl q)
    have hfound := diagnostics?_eq_some_iff.1 (diagnostics?_showing (d := d).2 ⟨hnext, hne⟩)
    have hfound' : (d.showing next).files.find? q = some v :=
      PathMap.find?_of_mem hmem' (.refl q)
    rwa [Option.some.inj (hfound'.symm.trans hfound)] at hmem'

lemma mem_dirtyFiles_showing :
    p ∈ (d.showing next).dirtyFiles ↔ ∃ l, (p, l) ∈ next.filled := by
  simp only [dirtyFiles, List.mem_map, List.mem_filter]
  constructor
  · rintro ⟨⟨q, v⟩, ⟨hmem, hv⟩, rfl⟩
    obtain ⟨l, rfl, -⟩ := (Option.any_eq_true ..).1 hv
    exact ⟨l, mem_entries_showing.1 hmem⟩
  · rintro ⟨l, hl⟩
    have hne : l ≠ [] := (DiagnosticSet.mem_filled.1 hl).2
    exact ⟨(p, some l), ⟨mem_entries_showing.2 hl, by simpa using hne⟩, rfl⟩

/-- A display that shows a run has just the files with diagnostics dirty, in the same order. -/
lemma dirtyFiles_showing (d : Display) (next : DiagnosticSet) :
    (d.showing next).dirtyFiles = next.filled.map Prod.fst := by
  refine eq_of_increasing id ?_ ?_ fun p => ?_
  · exact (d.showing next).increasing_dirtyFiles
  · rw [List.pairwise_map]
    exact next.files.ordered.filter _
  · rw [mem_dirtyFiles_showing]
    simp

/-- The dirty files of a display that shows a run, with what is shown in them. -/
theorem dirty_showing (d : Display) (next : DiagnosticSet) :
    ((d.showing next).dirtyFiles.map fun p => (p, (d.showing next).diagnostics? p)) =
      next.filled.map fun e => (e.1, some e.2) := by
  rw [dirtyFiles_showing, List.map_map]
  refine List.map_congr_left fun e he => ?_
  obtain ⟨hmem, hne⟩ := DiagnosticSet.mem_filled.1 he
  have hfound : next.find? e.1 = some e.2 := PathMap.find?_of_mem hmem (.refl e.1)
  exact congrArg (Prod.mk e.1) (diagnostics?_showing.2 ⟨hfound, hne⟩)

/-! ## The same run again -/

/-- To a display that shows a run, the lists that are not empty are still worth sending, and only
they. -/
lemma needsPublish_showing {e : Path × List Diagnostic} (he : e ∈ next.toList) :
    (d.showing next).needsPublish e.1 e.2 = !e.2.isEmpty := by
  have hfound : next.find? e.1 = some e.2 := PathMap.find?_of_mem he (.refl e.1)
  rw [needsPublish, isClean, find?_showing, hfound]
  rcases e with ⟨p, _ | ⟨x, rest⟩⟩ <;> rfl

lemma updates_showing (d : Display) (next : DiagnosticSet) :
    (d.showing next).updates next = next.filled.map fun e => ⟨e.1, e.2, false⟩ := by
  rw [updates, DiagnosticSet.filled]
  exact congrArg _ (List.filter_congr fun e he => needsPublish_showing he)

lemma clears_showing (d : Display) (next : DiagnosticSet) : (d.showing next).clears next = [] := by
  rw [clears, List.map_eq_nil_iff, List.filter_eq_nil_iff]
  intro p hp
  obtain ⟨l, hl⟩ := mem_dirtyFiles_showing.1 hp
  have hnext : next.contains p = true := PathMap.contains_of_mem (DiagnosticSet.mem_filled.1 hl).1
  simp [hnext]

/-- When the same run comes again, its lists are sent again, and nothing changes. -/
theorem revise_showing (d : Display) (next : DiagnosticSet) :
    (d.showing next).revise next =
      ⟨next.filled.map fun e => ⟨e.1, e.2, false⟩, d.showing next⟩ := by
  have hdisplay : (d.showing next).showing next = d.showing next := by
    rw [showing, missing_showing, ← showing]
  rw [revise, updates_showing, clears_showing, List.append_nil, hdisplay]

/-! ## The law -/

/-- **Only the last run counts.**  After a display has been brought up to date with several runs,
one after another, the dirty files and what is shown in them are those of the last run that have
diagnostics.  The tracked files are those of the display at the start and those of all the runs.
When the last run comes once more, its lists that are not empty are sent again, no file is cleared,
and the display stays as it is. -/
theorem reviseAll_forgets (d : Display) (earlier : List DiagnosticSet) (last : DiagnosticSet) :
    let final := d.reviseAll (earlier ++ [last])
    (final.dirtyFiles.map fun p => (p, final.diagnostics? p)) =
      (last.filled.map fun e => (e.1, some e.2)) ∧
    (∀ p l, final.diagnostics? p = some l ↔ last.find? p = some l ∧ l ≠ []) ∧
    (∀ p, final.files.contains p = true ↔
      d.files.contains p = true ∨ ∃ next ∈ earlier ++ [last], next.contains p = true) ∧
    final.revise last = ⟨last.filled.map fun e => ⟨e.1, e.2, false⟩, final⟩ := by
  intro final
  refine ⟨?_, fun p l => ?_, fun p => contains_reviseAll _, ?_⟩
  · simp only [final, reviseAll_concat]
    exact dirty_showing _ _
  · simp only [final, reviseAll_concat]
    exact diagnostics?_showing
  · simp only [final, reviseAll_concat]
    exact revise_showing _ _

end Display

end LintBridge
