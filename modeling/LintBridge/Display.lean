/-
# What the editor shows

For every file that was ever published, the diagnostics the editor shows in it now.  A file in which
nothing is shown is *clean*, one with diagnostics is *dirty*, and a file that was never published is
not in the display at all.

* `Display.record`, `Display.recordAll`: a list has been published, or several.
* `Display.needsPublish`: whether publishing a list would change anything.
-/
import LintBridge.Diagnostic.Set

namespace LintBridge

/-- What is shown in every file that was ever published. -/
structure Display where
  /-- The list shown in each file; none if the file is clean. -/
  files : PathMap (Option (List Diagnostic))
deriving DecidableEq, Inhabited

namespace Display

/-- The display before the first publication. -/
def empty : Display := ⟨.empty⟩

/-- The number of files that were published. -/
def size (d : Display) : Nat := d.files.size

/-- The list shown in a file, if there is one. -/
def diagnostics? (d : Display) (p : Path) : Option (List Diagnostic) := (d.files.find? p).join

/-- Whether diagnostics are shown in the file. -/
def isDirty (d : Display) (p : Path) : Bool := (d.diagnostics? p).any fun l => !l.isEmpty

/-- Whether the file was published and nothing is shown in it. -/
def isClean (d : Display) (p : Path) : Bool := d.files.find? p = some none

/-- Whether publishing the list is worth it: an empty list is not sent again to a clean file. -/
def needsPublish (d : Display) (p : Path) (l : List Diagnostic) : Bool :=
  !(l.isEmpty && d.isClean p)

/-- The entry of a file for which a list has been published. -/
def entry (l : List Diagnostic) : Option (List Diagnostic) := if l.isEmpty then none else some l

/-- The display after a list has been published for a file. -/
def record (d : Display) (p : Path) (l : List Diagnostic) : Display := ⟨d.files.insert p (entry l)⟩

/-- The display after lists have been published for files, one after the other. -/
def recordAll (d : Display) (lists : List (Path × List Diagnostic)) : Display :=
  lists.foldl (fun d e => d.record e.1 e.2) d

/-- The files in which diagnostics are shown, in path order. -/
def dirtyFiles (d : Display) : List Path :=
  (d.files.entries.filter fun e => e.2.any fun l => !l.isEmpty).map Prod.fst

/-- Whether some file has another list in `e` than in `d`, or is published in only one of them. -/
def differs (d e : Display) : Bool :=
  (d.files.keys ++ e.files.keys).any fun p => d.files.find? p ≠ e.files.find? p

/-- Two displays do not differ if and only if they agree on all paths. -/
theorem differs_eq_false_iff {d e : Display} :
    d.differs e = false ↔ ∀ p, d.files.find? p = e.files.find? p := by
  simp only [differs, List.any_eq_false, List.mem_append, ne_eq, decide_not, Bool.not_eq_true,
    Bool.not_eq_false', decide_eq_true_eq]
  refine ⟨fun h p => ?_, fun h p _ => h p⟩
  by_cases hd : d.files.contains p
  · obtain ⟨q, hq, hs⟩ := PathMap.exists_key hd
    rw [PathMap.find?_same hs, PathMap.find?_same hs]
    exact h q (.inl hq)
  · by_cases he : e.files.contains p
    · obtain ⟨q, hq, hs⟩ := PathMap.exists_key he
      rw [PathMap.find?_same hs, PathMap.find?_same hs]
      exact h q (.inr hq)
    · simp only [PathMap.contains, Bool.not_eq_true, Option.isSome_eq_false_iff,
        Option.isNone_iff_eq_none] at hd he
      rw [hd, he]

@[simp] theorem entry_nil : entry [] = none := rfl

theorem entry_eq_none_iff {l : List Diagnostic} : entry l = none ↔ l = [] := by
  simp [entry]

theorem entry_eq_some_iff {l l' : List Diagnostic} : entry l = some l' ↔ l = l' ∧ l' ≠ [] := by
  cases l with
  | nil => simp [entry, eq_comm]
  | cons x rest =>
    simp only [entry, List.isEmpty_cons, Bool.false_eq_true, if_false, Option.some.injEq, ne_eq]
    exact ⟨fun h => ⟨h, h ▸ List.cons_ne_nil x rest⟩, And.left⟩

theorem find?_record (d : Display) (p q : Path) (l : List Diagnostic) :
    (d.record p l).files.find? q = if p.Same q then some (entry l) else d.files.find? q :=
  PathMap.find?_insert ..

theorem isClean_iff {d : Display} {p : Path} :
    d.isClean p = true ↔ d.files.find? p = some none := by
  simp [isClean]

theorem diagnostics?_eq_some_iff {d : Display} {p : Path} {l : List Diagnostic} :
    d.diagnostics? p = some l ↔ d.files.find? p = some (some l) := by
  simp [diagnostics?, Option.join_eq_some_iff]

theorem isDirty_iff {d : Display} {p : Path} :
    d.isDirty p = true ↔ ∃ l, d.files.find? p = some (some l) ∧ l ≠ [] := by
  simp [isDirty, Option.any_eq_true, diagnostics?_eq_some_iff]

end Display

end LintBridge
