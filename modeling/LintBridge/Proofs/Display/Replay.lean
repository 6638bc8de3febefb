/-
# Displays as replays

A display says of a file what the last list that was published for it says.

* `Display.find?_recordAll`: what a display says after lists have been published.
* `Display.Replays d l`: the display says of every file what the lists `l` lead to, from nothing.
* `Display.Tidy d`: a file in which nothing is shown is marked clean, and keeps no empty list.
-/
import LintBridge.Display
import LintBridge.Proofs.PathMap.Latest

namespace LintBridge

namespace Display

variable {d e : Display} {p q : Path} {l l' : List (Path × List Diagnostic)}

/-- After lists have been published, the last one of a file counts. -/
lemma find?_recordAll (d : Display) (l : List (Path × List Diagnostic)) (p : Path) :
    (d.recordAll l).files.find? p = ((latest p l).map entry).or (d.files.find? p) := by
  -- on the lists in the order of their publication, for any display at the start
  induction l generalizing d with
  | nil => rfl
  | cons x rest ih =>
    have hcons : d.recordAll (x :: rest) = (d.record x.1 x.2).recordAll rest := rfl
    have hlatest : latest p (x :: rest) = (latest p rest).or (latest p [x]) :=
      latest_append (l := [x])
    rw [hcons, ih, find?_record, hlatest]
    by_cases hx : x.1.Same p
    · have hone : latest p [x] = some x.2 := by simp [latest, about, hx]
      rw [if_pos hx, hone]
      cases latest p rest <;> rfl
    · have hone : latest p [x] = none := by simp [latest, about, hx]
      rw [if_neg hx, hone, Option.or_none]

/-! ## Displays that say the same -/

/-- Two displays say the same of every file. -/
def Agrees (d e : Display) : Prop := ∀ p, d.files.find? p = e.files.find? p

lemma isClean_same (h : p.Same q) : d.isClean p = d.isClean q := by
  rw [isClean, isClean, PathMap.find?_same h]

lemma isDirty_same (h : p.Same q) : d.isDirty p = d.isDirty q := by
  rw [isDirty, isDirty, diagnostics?, diagnostics?, PathMap.find?_same h]

lemma needsPublish_same (h : p.Same q) (l : List Diagnostic) :
    d.needsPublish p l = d.needsPublish q l := by
  rw [needsPublish, needsPublish, isClean_same h]

/-- Only an empty list for a clean file is not worth publishing. -/
lemma not_needsPublish_iff {l : List Diagnostic} :
    ¬d.needsPublish p l = true ↔ l = [] ∧ d.isClean p = true := by
  simp [needsPublish]

/-- A dirty file is not clean. -/
lemma isClean_of_isDirty (h : d.isDirty p = true) : d.isClean p = false := by
  obtain ⟨l, hl, -⟩ := isDirty_iff.1 h
  rw [isClean, hl]
  rfl

/-- A file that is dirty, and not any more after at most one list has been published for it, was
sent the empty list. -/
lemma about_of_cleared (h : e.Agrees (d.recordAll l)) (hone : (about p l).length ≤ 1)
    (hdirty : d.isDirty p = true) (hnow : e.isDirty p = false) : ∃ q, about p l = [(q, [])] := by
  have hfind : e.files.find? p = ((latest p l).map entry).or (d.files.find? p) :=
    (h p).trans (d.find?_recordAll l p)
  rw [isDirty, diagnostics?, hfind, latest] at hnow
  rcases hsent : about p l with _ | ⟨x, _ | ⟨y, rest⟩⟩
  · -- nothing was sent, so the file is still dirty
    rw [hsent] at hnow
    rw [isDirty, diagnostics?] at hdirty
    exact absurd (hdirty.symm.trans hnow) (by simp)
  · rw [hsent] at hnow
    have hempty : x.2 = [] := by
      by_contra hne
      have hentry : entry x.2 = some x.2 := entry_eq_some_iff.2 ⟨rfl, hne⟩
      simp [hentry, hne] at hnow
    exact ⟨x.1, by rw [← hempty]⟩
  · rw [hsent] at hone
    simp at hone

/-! ## Tidy displays -/

/-- A file in which nothing is shown is marked clean, and keeps no empty list. -/
def Tidy (d : Display) : Prop := ∀ p, d.files.find? p ≠ some (some [])

lemma tidy_empty : Tidy empty := fun p => by
  rw [empty, PathMap.find?_empty]
  exact Option.some_ne_none _ |>.symm

/-- In a tidy display, a file that was published is either clean or dirty. -/
lemma Tidy.isDirty_eq_not_isClean (h : d.Tidy) (hp : d.files.contains p = true) :
    d.isDirty p = !d.isClean p := by
  rcases hfound : d.files.find? p with _ | _ | l
  · rw [PathMap.contains, hfound] at hp
    cases hp
  · simp [isDirty, diagnostics?, isClean, hfound]
  · have hne : l ≠ [] := fun hnil => h p (hnil ▸ hfound)
    simp [isDirty, diagnostics?, isClean, hfound, hne]

lemma entry_ne_some_nil (l : List Diagnostic) : entry l ≠ some [] := fun h =>
  (entry_eq_some_iff.1 h).2 rfl

lemma Tidy.recordAll (h : d.Tidy) (l : List (Path × List Diagnostic)) :
    (d.recordAll l).Tidy := by
  intro p hp
  rw [find?_recordAll] at hp
  cases hl : latest p l with
  | none =>
    rw [hl] at hp
    exact h p hp
  | some x =>
    rw [hl] at hp
    exact entry_ne_some_nil x (Option.some.inj hp)

lemma Tidy.record (h : d.Tidy) (p : Path) (l : List Diagnostic) : (d.record p l).Tidy :=
  h.recordAll [(p, l)]

/-! ## The lists a display replays -/

/-- What the display says of every file is what the lists, published one after the other from
nothing, lead to. -/
def Replays (d : Display) (l : List (Path × List Diagnostic)) : Prop :=
  ∀ p, d.files.find? p = (latest p l).map entry

lemma replays_empty : Replays empty [] := fun _ => rfl

lemma Replays.recordAll (h : d.Replays l) (l' : List (Path × List Diagnostic)) :
    (d.recordAll l').Replays (l ++ l') := by
  intro p
  rw [find?_recordAll, h p, latest_append, Option.map_or]

lemma Replays.agrees (h : d.Replays l) (h' : e.Agrees d) : e.Replays l := fun p =>
  (h' p).trans (h p)

lemma Replays.tidy (h : d.Replays l) : d.Tidy := by
  intro p hp
  rw [h p] at hp
  obtain ⟨x, -, hx⟩ := Option.map_eq_some_iff.1 hp
  exact entry_ne_some_nil x hx

lemma Replays.contains_eq_false_iff (h : d.Replays l) :
    d.files.contains p = false ↔ latest p l = none := by
  rw [PathMap.contains_eq_false_iff, h p, Option.map_eq_none_iff]

lemma Replays.contains_iff (h : d.Replays l) :
    d.files.contains p = true ↔ latest p l ≠ none := by
  rw [Ne, ← h.contains_eq_false_iff, Bool.not_eq_false]

/-- A file is clean if and only if the last list that was published for it is empty. -/
lemma Replays.isClean_iff (h : d.Replays l) : d.isClean p = true ↔ latest p l = some [] := by
  rw [Display.isClean_iff, h p, Option.map_eq_some_iff]
  constructor
  · rintro ⟨x, hx, hentry⟩
    rw [hx, entry_eq_none_iff.1 hentry]
  · intro hx
    exact ⟨[], hx, entry_nil⟩

/-- A list is shown in a file if and only if it is the last one that was published for it, and not
empty. -/
lemma Replays.diagnostics?_eq_some_iff (h : d.Replays l) {x : List Diagnostic} :
    d.diagnostics? p = some x ↔ latest p l = some x ∧ x ≠ [] := by
  rw [Display.diagnostics?_eq_some_iff, h p, Option.map_eq_some_iff]
  constructor
  · rintro ⟨y, hy, hentry⟩
    obtain ⟨rfl, hne⟩ := entry_eq_some_iff.1 hentry
    exact ⟨hy, hne⟩
  · rintro ⟨hx, hne⟩
    exact ⟨x, hx, entry_eq_some_iff.2 ⟨rfl, hne⟩⟩

/-- A file is dirty if and only if the last list that was published for it is not empty. -/
lemma Replays.isDirty_iff (h : d.Replays l) :
    d.isDirty p = true ↔ ∃ x, latest p l = some x ∧ x ≠ [] := by
  rw [Display.isDirty_iff]
  refine exists_congr fun x => ?_
  rw [← Display.diagnostics?_eq_some_iff, h.diagnostics?_eq_some_iff]
  exact ⟨And.left, fun hx => ⟨hx, hx.2⟩⟩

end Display

end LintBridge
