/-
# The files of a display

A file gets into a display when a list is published for it, and stays there under the same spelling.
So what holds of all paths that are published holds of all files of the display.

* `Display.Within P d`: all files of `d` have the property `P`.
* `Display.Within.revise`, `Display.Within.reviseFile`: it is kept on the way to a run, and the
  changes on the way have it, too.
-/
import LintBridge.Proofs.Display.Revision

namespace LintBridge

/-- All files of the display have the property. -/
def Display.Within (P : Path → Prop) (d : Display) : Prop := ∀ p ∈ d.files.keys, P p

/-- All files that are changed and all files that are shown afterwards have the property. -/
structure Revision.Within (P : Path → Prop) (r : Revision) : Prop where
  changes : ∀ c ∈ r.changes, P c.path
  display : r.display.Within P

namespace Display

variable {P : Path → Prop} {d : Display} {next : DiagnosticSet} {p : Path}

lemma within_empty : empty.Within P := fun _ hq => absurd hq List.not_mem_nil

lemma Within.record (h : d.Within P) (hp : P p) (l : List Diagnostic) :
    (d.record p l).Within P := by
  intro q hq
  rcases PathMap.mem_keys_insert.1 hq with hq | ⟨rfl, -⟩
  · exact h q hq
  · exact hp

lemma Within.recordAll {l : List (Path × List Diagnostic)} (h : d.Within P)
    (hl : ∀ x ∈ l, P x.1) : (d.recordAll l).Within P := by
  induction l generalizing d with
  | nil => exact h
  | cons x rest ih =>
    exact ih (h.record (hl x List.mem_cons_self) x.2) fun y hy => hl y (List.mem_cons_of_mem x hy)

lemma Within.apply {changes : List Change} (h : d.Within P)
    (hchanges : ∀ c ∈ changes, P c.path) : (d.apply changes).Within P :=
  h.recordAll (List.forall_mem_map.2 hchanges)

/-- The way to a run only names files of the display and of the run. -/
lemma Within.revise (h : d.Within P) (hnext : ∀ e ∈ next.toList, P e.1) :
    (d.revise next).Within P where
  changes c hc := by
    rcases mem_changes.1 hc with hc | hc
    · exact hnext _ (mem_updates.1 hc).1
    · obtain ⟨e, he, hpath⟩ := List.mem_map.1 (mem_clears.1 hc).1
      exact hpath ▸ h e.1 (List.mem_map_of_mem (List.mem_filter.1 he).1)
  display := by
    refine (within_empty.recordAll hnext).recordAll (List.forall_mem_map.2 fun q hq => ?_)
    exact h q (List.mem_filter.1 hq).1

lemma Within.reviseFile (h : d.Within P) (hp : P p) (next : DiagnosticSet) :
    (d.reviseFile next p).Within P := by
  have hchanges : ∀ c ∈ (d.reviseFile next p).changes, P c.path := by
    intro c hc
    rw [(mem_reviseFile hc).1]
    exact hp
  exact ⟨hchanges, h.apply hchanges⟩

end Display

end LintBridge
