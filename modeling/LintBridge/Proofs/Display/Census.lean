/-
# Untracked, clean and dirty files

In a display, a file is untracked, clean or dirty.  A display could also say of a file that the list
without diagnostics is shown in it, which is none of the three.  But no display that is made by
publishing lists and by bringing displays up to date ever does.

* `Path.number`: how many paths have a property.
* `PathMap.number_find?`: this is how many entries of a map have it.
* `Display.census`: the files of a display, one kind at a time.
-/
import LintBridge.Proofs.Display.Revision
import Mathlib.Data.Set.Card

namespace LintBridge

/-- How many paths have a property.  All spellings of one component list count as one. -/
noncomputable def Path.number (P : Path → Prop) : ℕ∞ := (components '' {p | P p}).encard

/-- The paths whose values are chosen, counted by the entries of the map. -/
lemma PathMap.number_find? {α : Type} (m : PathMap α) (f : α → Bool) :
    Path.number (fun p => ∃ v, m.find? p = some v ∧ f v = true) =
      m.entries.countP fun e => f e.2 := by
  let chosen := m.entries.filter fun e => f e.2
  have hnodup : (chosen.map fun e => e.1.components).Nodup :=
    List.pairwise_map.2 (m.ordered.distinct.filter _)
  have hset : Path.components '' {p | ∃ v, m.find? p = some v ∧ f v = true} =
      {cs | cs ∈ chosen.map fun e => e.1.components} := by
    ext cs
    simp only [Set.mem_image, Set.mem_ofPred_eq, List.mem_map, chosen, List.mem_filter]
    constructor
    · rintro ⟨p, ⟨v, hv, hf⟩, rfl⟩
      obtain ⟨q, hq, hs⟩ := mem_of_find? hv
      exact ⟨(q, v), ⟨hq, hf⟩, hs⟩
    · rintro ⟨e, ⟨he, hf⟩, rfl⟩
      exact ⟨e.1, ⟨e.2, find?_of_mem he (.refl e.1), hf⟩, rfl⟩
  rw [Path.number, hset, ← List.coe_toFinset, Set.encard_coe_eq_coe_finsetCard,
    List.toFinset_card_of_nodup hnodup, List.length_map, List.countP_eq_length_filter]

namespace Display

variable {d : Display} {p : Path}

lemma isClean_iff_isNone :
    d.isClean p = true ↔ ∃ v, d.files.find? p = some v ∧ v.isNone = true := by
  simp [isClean_iff]

lemma isDirty_iff_any :
    d.isDirty p = true ↔
      ∃ v, d.files.find? p = some v ∧ (v.any fun l => !l.isEmpty) = true := by
  simp [isDirty_iff, Option.any_eq_true]

/-- A display has as many files as are clean or dirty. -/
lemma Tidy.size_eq (h : d.Tidy) :
    (d.size : ℕ∞) =
      Path.number (fun p => d.isClean p = true) + Path.number fun p => d.isDirty p = true := by
  have hkind : ∀ e ∈ d.files.entries,
      (e.2.any fun l => !l.isEmpty) = true ↔ decide ¬e.2.isNone = true := by
    rintro ⟨p, v⟩ he
    have hv : v ≠ some [] := fun hv => h p (hv ▸ PathMap.find?_of_mem he (.refl p))
    cases v with
    | none => simp
    | some l => simpa using hv
  simp only [isClean_iff_isNone, isDirty_iff_any, PathMap.number_find?]
  rw [List.countP_congr hkind, ← Nat.cast_add, ← List.length_eq_countP_add_countP]
  rfl

/-- In a tidy display, a list that is shown in a file has diagnostics. -/
lemma Tidy.ne_nil (h : d.Tidy) {l : List Diagnostic} (hl : d.diagnostics? p = some l) : l ≠ [] :=
  fun hnil => h p (hnil ▸ diagnostics?_eq_some_iff.1 hl)

lemma Tidy.isSome_diagnostics? (h : d.Tidy) (p : Path) :
    (d.diagnostics? p).isSome = d.isDirty p := by
  rw [isDirty]
  cases hl : d.diagnostics? p with
  | none => rfl
  | some l => simpa using h.ne_nil hl

/-- In a tidy display, there are three kinds of files. -/
lemma Tidy.kinds (h : d.Tidy) (p : Path) :
    (d.files.contains p = false ∧ d.isClean p = false ∧ d.isDirty p = false) ∨
      (d.files.contains p = true ∧ d.isClean p = true ∧ d.isDirty p = false) ∨
      (d.files.contains p = true ∧ d.isClean p = false ∧ d.isDirty p = true) := by
  cases hp : d.files.contains p with
  | false =>
    have hnone : d.files.find? p = none := PathMap.contains_eq_false_iff.1 hp
    simp [isClean, isDirty, diagnostics?, hnone]
  | true =>
    have hkind := h.isDirty_eq_not_isClean hp
    cases hclean : d.isClean p <;> simp [hkind, hclean]

/-- **Every file is untracked, clean or dirty**, and nothing else.  A list is shown in the dirty
files and only there, and it has diagnostics.  The dirty files are listed once each, in path order.
The size of the display is the number of the clean and the dirty files, and publishing is not worth
it just for the empty list in a clean file. -/
theorem census (h : d.Built) :
    (∀ p, (d.files.contains p = false ∧ d.isClean p = false ∧ d.isDirty p = false) ∨
      (d.files.contains p = true ∧ d.isClean p = true ∧ d.isDirty p = false) ∨
      (d.files.contains p = true ∧ d.isClean p = false ∧ d.isDirty p = true)) ∧
    (∀ p, (d.diagnostics? p).isSome = d.isDirty p) ∧
    (∀ p l, d.diagnostics? p = some l → l ≠ []) ∧
    (∀ p, d.isDirty p = true ↔ ∃ q ∈ d.dirtyFiles, q.Same p) ∧
    (d.dirtyFiles.Pairwise fun p q => p.order q = .lt ∧ ¬p.Same q) ∧
    (d.size : ℕ∞) =
      Path.number (fun p => d.isClean p = true) + Path.number (fun p => d.isDirty p = true) ∧
    ∀ p l, d.needsPublish p l = false ↔ l = [] ∧ d.isClean p = true := by
  have htidy := h.tidy
  refine ⟨htidy.kinds, htidy.isSome_diagnostics?, fun p l => htidy.ne_nil, fun p => ?_, ?_,
    htidy.size_eq, fun p l => ?_⟩
  · rw [← spelled_dirtyFiles, spelled_iff]
  · exact d.increasing_dirtyFiles.imp fun hlt => ⟨hlt, Path.not_same_of_order_lt hlt⟩
  · rw [← Bool.not_eq_true, not_needsPublish_iff]

/-- The run is shown in four files, three of them clean: one that is reported without diagnostics,
one that was clean before, and one that is not reported any more. -/
theorem census_rerun :
    let x : Diagnostic := .warning "odd" (.point ⟨0, 0⟩)
    let d := ((threeFiles x).revise (rerun x)).display
    d.Built ∧ d.isClean ⟨"/p/a.js/"⟩ = true ∧ d.isDirty ⟨"/p//d.js"⟩ = true ∧
      (∃ q ∈ d.dirtyFiles, q.Same ⟨"/p//d.js"⟩) ∧
      Path.number (fun p => d.isClean p = true) + Path.number (fun p => d.isDirty p = true) = 4 ∧
      d.needsPublish ⟨"/p/./c.js"⟩ [] = false := by
  intro x d
  have hbuilt : d.Built := .revise (built_threeFiles x) (rerun x)
  obtain ⟨-, -, -, hlisted, -, hsize, hneeds⟩ := census hbuilt
  have hdirty : d.isDirty ⟨"/p//d.js"⟩ = true := by decide +kernel
  have hfour : d.size = 4 := by decide +kernel
  refine ⟨hbuilt, by decide +kernel, hdirty, (hlisted _).1 hdirty, ?_, ?_⟩
  · rw [← hsize, hfour]
    rfl
  · exact (hneeds _ _).2 ⟨rfl, by decide +kernel⟩

/-- A display that shows a list without diagnostics in a file, in which the file is of none of the
kinds. -/
example :
    let d : Display := ⟨PathMap.empty.insert ⟨"a.js"⟩ (some [])⟩
    d.files.contains ⟨"a.js"⟩ = true ∧ d.isClean ⟨"a.js"⟩ = false ∧
      d.isDirty ⟨"a.js"⟩ = false := by
  decide +kernel

end Display

end LintBridge
