/-
# Reports on one file

A list of reports may have several on one file, some of them without violations.  The set that is
made of them has one entry for the file, with the diagnostics of all its reports in their order.

* `FileReport.additions`: what a report adds to the set.
* `DiagnosticSet.ofReports_eq`: the set is filled with this.
* `DiagnosticSet.screen_ofReports`: what the set shows in a file.
* `DiagnosticSet.contains_ofReports`: which files the set has.
* `DiagnosticSet.mem_ofReports`, `DiagnosticSet.plain_ofReports`: files are entered as the keys of
  reports, in normal form.
* `DiagnosticSet.filled_eq_of_screen`: two such sets that show the same have the same entries, apart
  from empty ones.
-/
import LintBridge.Proofs.Diagnostic.Filling
import LintBridge.Proofs.Display.Revision
import LintBridge.Proofs.Path.Spelling
import LintBridge.Report.Conversion

namespace LintBridge

namespace FileReport

/-- The path under which the report is entered. -/
def key (base : Path) (r : FileReport) : Path := Path.normalize base ⟨r.filePath⟩

/-- The diagnostics of the report. -/
def diagnostics (o : ConversionOptions) (r : FileReport) : List Diagnostic :=
  r.violations.map fun v => v.toDiagnostic o

/-- The violations in all reports on a file, in their order. -/
def violationsOn (base : Path) (reports : List FileReport) (p : Path) : List Violation :=
  (reports.filter fun r => (r.key base).Same p).flatMap violations

/-- Whether the report brings its file into the set. -/
def counts (o : ConversionOptions) (r : FileReport) : Bool :=
  !r.violations.isEmpty || o.emptyRecords = .retain

lemma counts_iff {o : ConversionOptions} {r : FileReport} :
    r.counts o = true ↔ o.emptyRecords = .retain ∨ r.violations ≠ [] := by
  simp [counts, or_comm]

/-! ## What one report adds -/

/-- What the report adds to a set: its diagnostics, or just its file if there are none. -/
def additions (o : ConversionOptions) (base : Path) (r : FileReport) :
    List DiagnosticSet.Addition :=
  match r.violations, o.emptyRecords with
  | [], .retain => [.touch (r.key base)]
  | vs, _ => vs.map fun v => .push (r.key base) (v.toDiagnostic o)

variable {o : ConversionOptions} {base p : Path} {r : FileReport}

/-- A report adds nothing, or its file, or its diagnostics one by one. -/
lemma additions_cases (o : ConversionOptions) (base : Path) (r : FileReport) :
    (r.violations = [] ∧ r.counts o = false ∧ r.additions o base = []) ∨
      (r.violations = [] ∧ r.counts o = true ∧ r.additions o base = [.touch (r.key base)]) ∨
      (r.violations ≠ [] ∧ r.counts o = true ∧ r.additions o base =
        r.violations.map fun v => .push (r.key base) (v.toDiagnostic o)) := by
  unfold additions counts
  rcases hvs : r.violations with _ | ⟨v, rest⟩
  · cases hempty : o.emptyRecords with
    | retain => exact .inr (.inl ⟨rfl, by simp, rfl⟩)
    | drop => exact .inl ⟨rfl, by simp, rfl⟩
  · exact .inr (.inr ⟨List.cons_ne_nil v rest, by simp, rfl⟩)

lemma path_of_mem_additions {a : DiagnosticSet.Addition} (ha : a ∈ r.additions o base) :
    a.path = r.key base := by
  rcases additions_cases o base r with ⟨-, -, h⟩ | ⟨-, -, h⟩ | ⟨-, -, h⟩ <;> rw [h] at ha
  · cases ha
  · obtain rfl := List.mem_singleton.1 ha
    rfl
  · obtain ⟨v, -, rfl⟩ := List.mem_map.1 ha
    rfl

lemma additions_eq_nil_iff : r.additions o base = [] ↔ r.counts o = false := by
  rcases additions_cases o base r with ⟨-, hcounts, h⟩ | ⟨-, hcounts, h⟩ | ⟨hvs, hcounts, h⟩
  · simp [h, hcounts]
  · simp [h, hcounts]
  · simp [h, hcounts, hvs]

/-- A report adds something to its file if it counts. -/
lemma exists_mem_additions_iff :
    (∃ a ∈ r.additions o base, a.path.Same p) ↔ r.counts o = true ∧ (r.key base).Same p := by
  constructor
  · rintro ⟨a, ha, hs⟩
    refine ⟨?_, path_of_mem_additions ha ▸ hs⟩
    rw [← Bool.not_eq_false, ← additions_eq_nil_iff]
    exact List.ne_nil_of_mem ha
  · rintro ⟨hcounts, hs⟩
    have hne : r.additions o base ≠ [] := by simp [additions_eq_nil_iff, hcounts]
    obtain ⟨a, ha⟩ := List.exists_mem_of_ne_nil _ hne
    exact ⟨a, ha, path_of_mem_additions ha ▸ hs⟩

lemma filterMap_additions (o : ConversionOptions) (base : Path) (r : FileReport) :
    (r.additions o base).filterMap DiagnosticSet.Addition.diagnostic? = r.diagnostics o := by
  rcases additions_cases o base r with ⟨hvs, -, h⟩ | ⟨hvs, -, h⟩ | ⟨-, -, h⟩
  · simp [h, diagnostics, hvs]
  · simp [h, diagnostics, hvs, DiagnosticSet.Addition.diagnostic?]
  · rw [h, List.filterMap_map]
    exact congrFun List.filterMap_eq_map r.violations

/-- A report adds its diagnostics to its file and to no other one. -/
lemma gathered_additions (o : ConversionOptions) (base p : Path) (r : FileReport) :
    DiagnosticSet.Addition.gathered p (r.additions o base) =
      if (r.key base).Same p then r.diagnostics o else [] := by
  rw [DiagnosticSet.Addition.gathered]
  split
  next h =>
    rw [List.filter_eq_self.2, filterMap_additions]
    exact fun a ha => decide_eq_true (path_of_mem_additions ha ▸ h)
  next h =>
    rw [List.filter_eq_nil_iff.2, List.filterMap_nil]
    exact fun a ha hs => h (path_of_mem_additions ha ▸ of_decide_eq_true hs)

end FileReport

namespace DiagnosticSet

variable {s s' : DiagnosticSet} {p : Path} {o : ConversionOptions} {base : Path}

/-- A set of reports is filled with what they add, one after the other. -/
theorem ofReports_eq (o : ConversionOptions) (base : Path) (reports : List FileReport) :
    ofReports o base reports = ofAdditions (reports.flatMap (FileReport.additions o base)) := by
  have hstep : addReport o base = fun s r => (r.additions o base).foldl add s := by
    funext s r
    unfold addReport FileReport.additions
    rcases r.violations with _ | ⟨v, rest⟩
    · cases o.emptyRecords <;> rfl
    · rw [List.foldl_map]
      rfl
  rw [ofReports, ofAdditions, List.foldl_flatMap, hstep]

/-! ## What a list of reports adds up to -/

/-- The diagnostics of all reports on a file, in their order. -/
def gathered (o : ConversionOptions) (base : Path) (reports : List FileReport) (p : Path) :
    List Diagnostic :=
  (reports.filter fun r => (r.key base).Same p).flatMap (FileReport.diagnostics o)

/-- Each violation on the file has become a diagnostic. -/
lemma gathered_eq_map (o : ConversionOptions) (base : Path) (reports : List FileReport) (p : Path) :
    gathered o base reports p =
      (FileReport.violationsOn base reports p).map (Violation.toDiagnostic o) := by
  rw [gathered, FileReport.violationsOn, List.map_flatMap]
  rfl

lemma gathered_flatMap_additions (reports : List FileReport) (p : Path) :
    Addition.gathered p (reports.flatMap (FileReport.additions o base)) =
      gathered o base reports p := by
  induction reports with
  | nil => rfl
  | cons r rest ih =>
    rw [List.flatMap_cons, Addition.gathered_append, ih, FileReport.gathered_additions, gathered,
      gathered]
    by_cases h : (r.key base).Same p <;> simp [h]

/-- In a file, a set shows the diagnostics of all reports on it. -/
theorem screen_ofReports (reports : List FileReport) (p : Path) :
    (ofReports o base reports).screen p = gathered o base reports p := by
  rw [ofReports_eq, screen, getD_find?_ofAdditions, gathered_flatMap_additions]

/-- A set has the files on which there is a report that counts. -/
lemma contains_ofReports_iff {reports : List FileReport} {p : Path} :
    (ofReports o base reports).contains p = true ↔
      ∃ r ∈ reports, r.counts o = true ∧ (r.key base).Same p := by
  simp only [ofReports_eq, contains_ofAdditions, ← FileReport.exists_mem_additions_iff,
    List.mem_flatMap]
  constructor
  · rintro ⟨a, ⟨r, hr, ha⟩, hs⟩
    exact ⟨r, hr, a, ha, hs⟩
  · rintro ⟨r, hr, a, ha, hs⟩
    exact ⟨a, ⟨r, hr, ha⟩, hs⟩

theorem contains_ofReports (reports : List FileReport) (p : Path) :
    (ofReports o base reports).contains p =
      reports.any fun r => r.counts o && decide ((r.key base).Same p) := by
  rw [Bool.eq_iff_iff, contains_ofReports_iff]
  simp only [List.any_eq_true, Bool.and_eq_true, decide_eq_true_eq]

/-! ## How files are entered -/

/-- All files are entered in their plainest spelling. -/
def Plain (s : DiagnosticSet) : Prop := ∀ e ∈ s.toList, e.1.Plain

/-- Every file of a set is entered as the key of a report. -/
theorem mem_ofReports {reports : List FileReport} {e : Path × List Diagnostic}
    (he : e ∈ (ofReports o base reports).toList) : ∃ r ∈ reports, e.1 = r.key base := by
  rw [ofReports_eq] at he
  obtain ⟨a, ha, hpath⟩ := Option.map_eq_some_iff.1
    (mem_keys_ofAdditions.1 (List.mem_map_of_mem he : e.1 ∈ PathMap.keys _))
  obtain ⟨r, hr, hmem⟩ := List.mem_flatMap.1 (List.mem_of_find?_eq_some ha)
  exact ⟨r, hr, hpath.symm.trans (FileReport.path_of_mem_additions hmem)⟩

theorem plain_ofReports (reports : List FileReport) : (ofReports o base reports).Plain := by
  intro e he
  obtain ⟨r, -, hkey⟩ := mem_ofReports he
  exact hkey ▸ Path.plain_normalize base ⟨r.filePath⟩

/-- What is found under the plainest spelling of a path is entered under it. -/
lemma mem_toList_of_find? (h : s.Plain) (hp : p.Plain) {l : List Diagnostic}
    (hfound : s.find? p = some l) : (p, l) ∈ s.toList :=
  PathMap.mem_entries_of_find? h hp hfound

/-- The files of a set that have diagnostics. -/
def filled (s : DiagnosticSet) : List (Path × List Diagnostic) :=
  s.toList.filter fun e => !e.2.isEmpty

lemma mem_filled {e : Path × List Diagnostic} : e ∈ s.filled ↔ e ∈ s.toList ∧ e.2 ≠ [] := by
  simp [filled]

lemma mem_filled_of_screen (h : s.Plain) (h' : s'.Plain) (hscreen : s.screen = s'.screen)
    {e : Path × List Diagnostic} (he : e ∈ s.filled) : e ∈ s'.filled := by
  obtain ⟨hmem, hne⟩ := mem_filled.1 he
  have hfound : s.find? e.1 = some e.2 := PathMap.find?_of_mem hmem (.refl e.1)
  have hshown : (s'.find? e.1).getD [] = e.2 := by
    have hat := congrFun hscreen e.1
    rw [screen, screen, hfound] at hat
    exact hat.symm
  have hfound' : s'.find? e.1 = some e.2 := by
    cases hl : s'.find? e.1 with
    | none =>
      rw [hl] at hshown
      exact absurd hshown.symm hne
    | some l =>
      rw [hl] at hshown
      exact congrArg some hshown
  exact mem_filled.2 ⟨mem_toList_of_find? h' (h e hmem) hfound', hne⟩

/-- Sets that show the same have the same files with diagnostics, in the same order. -/
theorem filled_eq_of_screen (h : s.Plain) (h' : s'.Plain) (hscreen : s.screen = s'.screen) :
    s.filled = s'.filled := by
  refine eq_of_increasing Prod.fst (s.files.ordered.filter _) (s'.files.ordered.filter _) ?_
  intro e
  exact ⟨mem_filled_of_screen h h' hscreen, mem_filled_of_screen h' h hscreen.symm⟩

end DiagnosticSet

end LintBridge
