/-
# Nothing is lost, added or reordered

A set is determined by the reports on each file, taken in their order.  How the reports on different
files are mixed does not matter, and no diagnostic of a report goes missing or appears twice.

* `DiagnosticSet.count_ofReports`: how many diagnostics the set has.
* `DiagnosticSet.eq_of_find?`: sets in normal form with the same lists are equal.
* `DiagnosticSet.ofReports_exact`: the law.
-/
import LintBridge.Proofs.Report.Grouping

namespace LintBridge

namespace DiagnosticSet

variable {s s' : DiagnosticSet} {o : ConversionOptions} {base : Path}

/-! ## How many diagnostics there are -/

/-- A set has as many diagnostics as there are violations in the reports. -/
theorem count_ofReports (reports : List FileReport) :
    (ofReports o base reports).count = (reports.flatMap FileReport.violations).length := by
  have hreports : (reports.flatMap (FileReport.additions o base)).filterMap Addition.diagnostic? =
      (reports.flatMap FileReport.violations).map (Violation.toDiagnostic o) := by
    rw [List.filterMap_flatMap, List.map_flatMap]
    exact List.flatMap_congr fun r _ => FileReport.filterMap_additions o base r
  rw [ofReports_eq, count_ofAdditions, ← List.length_filterMap_eq_countP, hreports,
    List.length_map]

/-! ## What determines a set -/

/-- Sets whose files are entered in their plainest spelling are equal if the same is found in them.
-/
lemma eq_of_find? (h : s.Plain) (h' : s'.Plain) (hfind : ∀ p, s.find? p = s'.find? p) : s = s' := by
  have hfiles : s.files = s'.files := PathMap.eq_of_find? h h' hfind
  cases s
  cases s'
  exact congrArg DiagnosticSet.mk hfiles

/-- What is found in a set, in terms of what it shows and which files it has. -/
lemma find?_eq_screen (s : DiagnosticSet) (p : Path) :
    s.find? p = if s.contains p = true then some (s.screen p) else none := by
  rw [contains, PathMap.contains, screen, ← find?]
  cases s.find? p <;> rfl

/-- Whether a set has a file only depends on the reports on the file. -/
lemma contains_ofReports_filter (reports : List FileReport) (p : Path) :
    (ofReports o base reports).contains p =
      (reports.filter fun r => (r.key base).Same p).any (FileReport.counts o) := by
  rw [contains_ofReports, List.any_filter]
  simp only [Bool.and_comm]

/-! ## The law -/

/-- **Nothing is lost, added or reordered.**  In each file, the set has the diagnostics of all
violations in all reports on the file, in the order of the reports and within a report in the order
of the violations.  It has the files of all reports, or those of the reports with violations if
empty ones are left out, in path order and each under the normal form of its path.  It has as many
diagnostics as there are violations.  If the reports come in another order, in which those on one
file are in the same order as before, then the set is the same. -/
theorem ofReports_exact (o : ConversionOptions) (base : Path) (reports : List FileReport) :
    let s := ofReports o base reports
    (∀ p, (s.find? p).getD [] = (reports.filter fun r => (r.key base).Same p).flatMap
      fun r => r.violations.map (Violation.toDiagnostic o)) ∧
    (∀ p, s.contains p = true ↔
      ∃ r ∈ reports, (r.key base).Same p ∧ (o.emptyRecords = .retain ∨ r.violations ≠ [])) ∧
    (s.files.keys.Pairwise fun p q => p.order q = .lt) ∧
    (∀ p ∈ s.files.keys, ∃ r ∈ reports, p = r.key base) ∧
    s.count = (reports.flatMap FileReport.violations).length ∧
    ∀ reports' : List FileReport,
      (∀ p, (reports'.filter fun r => (r.key base).Same p) =
        reports.filter fun r => (r.key base).Same p) →
      ofReports o base reports' = s := by
  intro s
  refine ⟨screen_ofReports reports, fun p => ?_, s.files.increasing_keys, ?_,
    count_ofReports reports, ?_⟩
  · rw [contains_ofReports_iff]
    simp only [FileReport.counts_iff, and_comm]
  · intro p hp
    obtain ⟨e, he, rfl⟩ := List.mem_map.1 hp
    exact mem_ofReports he
  · intro reports' hsame
    refine eq_of_find? (plain_ofReports reports') (plain_ofReports reports) fun p => ?_
    rw [find?_eq_screen, find?_eq_screen, screen_ofReports, screen_ofReports, gathered, gathered,
      contains_ofReports_filter, contains_ofReports_filter, hsame p]

/-- Two reports on one file in two spellings, with another file between them that has no violations,
and the same reports with the other file in front. -/
theorem ofReports_exact_mixed :
    let v (message : String) : Violation := ⟨none, 2, message, none, none, none, none⟩
    let one : FileReport := ⟨"src/../a.js", [v "x", v "y"]⟩
    let other : FileReport := ⟨"/p/b.js", []⟩
    let again : FileReport := ⟨".//a.js", [v "z"]⟩
    let s := ofReports {} ⟨"/p"⟩ [one, other, again]
    ((s.find? ⟨"/p/a.js"⟩).getD []).map Diagnostic.message = ["x", "y", "z"] ∧
      s.files.keys = [⟨"/p/a.js"⟩, ⟨"/p/b.js"⟩] ∧ s.count = 3 ∧
      (∀ p, ([other, one, again].filter fun r => (r.key ⟨"/p"⟩).Same p) =
        [one, other, again].filter fun r => (r.key ⟨"/p"⟩).Same p) ∧
      ofReports {} ⟨"/p"⟩ [other, one, again] = s := by
  intro v one other again s
  have hmixed (p : Path) : ([other, one, again].filter fun r => (r.key ⟨"/p"⟩).Same p) =
      [one, other, again].filter fun r => (r.key ⟨"/p"⟩).Same p := by
    have hne : ¬(one.key ⟨"/p"⟩).Same (other.key ⟨"/p"⟩) := by decide +kernel
    by_cases h : (one.key ⟨"/p"⟩).Same p
    · have hother : ¬(other.key ⟨"/p"⟩).Same p := fun hother => hne (h.trans hother.symm)
      simp [List.filter_cons, h, hother]
    · simp [List.filter_cons, h]
  obtain ⟨hlists, -, -, -, hcount, hreordered⟩ := ofReports_exact {} ⟨"/p"⟩ [one, other, again]
  refine ⟨?_, by decide +kernel, hcount, hmixed, hreordered _ hmixed⟩
  rw [hlists]
  decide +kernel

end DiagnosticSet

end LintBridge
