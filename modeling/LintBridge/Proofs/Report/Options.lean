/-
# Choices that do not get in each other's way

The user chooses which violations are errors, whether a message names its rule, and whether files
without violations are kept.  Each choice has its own effect, and none of them has a say in whether
a text can be read, in which order files and diagnostics come, or where a diagnostic is shown.

* `DiagnosticSet.toList_ofReports`: a set has, for each of its files, the violations on it, and each
  has become a diagnostic.
* `Corresponding`: two lists of files that only differ in their diagnostics, one by one.
* `DiagnosticSet.corresponding_ofReports`: sets in which the same empty files are kept.
* `DiagnosticSet.toList_drop`: a set without empty files.
* `DiagnosticSet.choices_independent`: the law.
-/
import LintBridge.Proofs.Report.Grouping
import Mathlib.Data.List.Forall2

namespace LintBridge

/-- Two lists of files have the same files in the same order, and in each of them the same number of
diagnostics, which are related one by one. -/
def Corresponding (R : Diagnostic → Diagnostic → Prop) :
    List (Path × List Diagnostic) → List (Path × List Diagnostic) → Prop :=
  List.Forall₂ fun e e' => e.1 = e'.1 ∧ List.Forall₂ R e.2 e'.2

/-- Files without diagnostics have a corresponding file without diagnostics. -/
lemma Corresponding.filter {R : Diagnostic → Diagnostic → Prop}
    {l l' : List (Path × List Diagnostic)} (h : Corresponding R l l') :
    Corresponding R (l.filter fun e => !e.2.isEmpty) (l'.filter fun e => !e.2.isEmpty) := by
  induction h with
  | nil => exact .nil
  | @cons e e' rest rest' hhead _ ih =>
    obtain ⟨p, ds⟩ := e
    obtain ⟨p', ds'⟩ := e'
    cases hhead.2 with
    | nil => exact ih
    | cons hd hds => exact .cons ⟨hhead.1, .cons hd hds⟩ ih

/-- The diagnostic with its rule, if it has one, named behind the message. -/
def Diagnostic.namingRule (d : Diagnostic) : Diagnostic :=
  match d.ruleType with
  | some rule => { d with message := d.message ++ " (" ++ rule ++ ")" }
  | none => d

namespace Violation

/-- A message that names the rule is the plain one with the rule named behind it. -/
lemma toDiagnostic_ruleInMessage (o : ConversionOptions) (v : Violation) :
    v.toDiagnostic { o with ruleInMessage := true } =
      (v.toDiagnostic { o with ruleInMessage := false }).namingRule := by
  obtain ⟨ruleId, -⟩ := v
  cases ruleId <;> rfl

end Violation

lemma SeverityPolicy.severity_eq (policy : SeverityPolicy) (code : UInt8) :
    policy.severity code = if policy = .graded ∧ code = 2 then .error else .warning := by
  cases policy <;> simp [severity]

namespace DiagnosticSet

variable {o o' : ConversionOptions} {base : Path} {reports : List FileReport}

/-! ## A set as a list of files -/

/-- Each file of a set has the violations on it, and each of them has become a diagnostic. -/
theorem toList_ofReports (o : ConversionOptions) (base : Path) (reports : List FileReport) :
    (ofReports o base reports).toList = (ofReports o base reports).files.keys.map fun p =>
      (p, (FileReport.violationsOn base reports p).map (Violation.toDiagnostic o)) := by
  rw [PathMap.keys, List.map_map]
  refine (List.map_id _).symm.trans (List.map_congr_left fun e he => ?_)
  have hfound : (ofReports o base reports).find? e.1 = some e.2 :=
    PathMap.find?_of_mem he (.refl e.1)
  have hscreen : (ofReports o base reports).screen e.1 = e.2 := by
    rw [screen, hfound]
    rfl
  rw [screen_ofReports, gathered_eq_map] at hscreen
  exact Prod.ext rfl hscreen.symm

/-- If all files are entered in their plainest spelling, then the files of a set are known from
those it contains. -/
lemma mem_keys_iff {s : DiagnosticSet} (hs : s.Plain) {p : Path} :
    p ∈ s.files.keys ↔ p.Plain ∧ s.contains p = true := by
  constructor
  · intro hp
    obtain ⟨e, he, rfl⟩ := List.mem_map.1 hp
    exact ⟨hs e he, PathMap.contains_of_mem he⟩
  · rintro ⟨hplain, hcontains⟩
    obtain ⟨q, hq, hsame⟩ := PathMap.exists_key hcontains
    obtain ⟨e, he, rfl⟩ := List.mem_map.1 hq
    obtain rfl : p = e.1 := hplain.eq_of_same (hs e he) hsame
    exact hq

/-- Which files a set has, and under which spelling, only depends on which empty files are kept. -/
theorem keys_ofReports (hempty : o.emptyRecords = o'.emptyRecords) :
    (ofReports o base reports).files.keys = (ofReports o' base reports).files.keys := by
  refine eq_of_increasing id (PathMap.increasing_keys _) (PathMap.increasing_keys _) fun p => ?_
  rw [mem_keys_iff (plain_ofReports reports), mem_keys_iff (plain_ofReports reports),
    contains_ofReports, contains_ofReports]
  simp only [FileReport.counts, hempty]

/-- Sets in which the same empty files are kept only differ in what becomes of a violation. -/
theorem corresponding_ofReports {R : Diagnostic → Diagnostic → Prop}
    (hempty : o.emptyRecords = o'.emptyRecords)
    (h : ∀ v : Violation, R (v.toDiagnostic o) (v.toDiagnostic o')) :
    Corresponding R (ofReports o base reports).toList (ofReports o' base reports).toList := by
  rw [toList_ofReports, toList_ofReports, keys_ofReports hempty, Corresponding,
    List.forall₂_map_left_iff, List.forall₂_map_right_iff, List.forall₂_same]
  intro p _
  refine ⟨rfl, ?_⟩
  rw [List.forall₂_map_left_iff, List.forall₂_map_right_iff, List.forall₂_same]
  exact fun v _ => h v

/-- What a set shows does not depend on which empty files are kept. -/
lemma screen_emptyRecords (o : ConversionOptions) (policy : EmptyPolicy) :
    (ofReports { o with emptyRecords := policy } base reports).screen =
      (ofReports o base reports).screen := by
  funext p
  rw [screen_ofReports, screen_ofReports]
  rfl

/-- The files with diagnostics do not depend on which empty files are kept. -/
lemma filled_emptyRecords (o : ConversionOptions) (policy : EmptyPolicy) :
    (ofReports { o with emptyRecords := policy } base reports).filled =
      (ofReports o base reports).filled :=
  filled_eq_of_screen (plain_ofReports reports) (plain_ofReports reports)
    (screen_emptyRecords o policy)

/-- If empty files are left out, then exactly the others are there. -/
theorem toList_drop (o : ConversionOptions) :
    (ofReports { o with emptyRecords := .drop } base reports).toList =
      (ofReports o base reports).filled := by
  rw [← filled_emptyRecords o .drop, filled, eq_comm, List.filter_eq_self]
  intro e he
  have hcontains := PathMap.contains_of_mem he
  obtain ⟨r, hr, hcounts, hsame⟩ := contains_ofReports_iff.1 hcontains
  have hviolations : r.violations ≠ [] :=
    (FileReport.counts_iff.1 hcounts).resolve_left EmptyPolicy.noConfusion
  obtain ⟨v, hv⟩ := List.exists_mem_of_ne_nil _ hviolations
  rw [toList_ofReports] at he
  obtain ⟨p, -, rfl⟩ := List.mem_map.1 he
  have hmem : v ∈ FileReport.violationsOn base reports p :=
    List.mem_flatMap.2 ⟨r, List.mem_filter.2 ⟨hr, decide_eq_true hsame⟩, hv⟩
  rw [Bool.not_eq_true', List.isEmpty_eq_false_iff, ne_eq, List.map_eq_nil_iff]
  exact List.ne_nil_of_mem hmem

/-- Whatever is chosen, the same files have diagnostics, and as many of them, with the same ranges
and rules. -/
theorem filled_corresponding (o o' : ConversionOptions) :
    Corresponding (fun d d' => d.range = d'.range ∧ d.ruleType = d'.ruleType)
      (ofReports o base reports).filled (ofReports o' base reports).filled := by
  rw [← filled_emptyRecords o' o.emptyRecords]
  refine Corresponding.filter (corresponding_ofReports rfl fun v => ?_)
  exact ⟨rfl, rfl⟩

/-- Each violation on a file has become a diagnostic with the severity that is chosen for it. -/
lemma severities (o : ConversionOptions) (base : Path) (reports : List FileReport) (p : Path) :
    List.Forall₂ (fun (v : Violation) (d : Diagnostic) =>
        d.severity = if o.severity = .graded ∧ v.severity = 2 then .error else .warning)
      (FileReport.violationsOn base reports p) (((ofReports o base reports).find? p).getD []) := by
  have hscreen : (ofReports o base reports).screen p = gathered o base reports p :=
    screen_ofReports reports p
  rw [gathered_eq_map] at hscreen
  rw [← screen, hscreen, List.forall₂_map_right_iff, List.forall₂_same]
  exact fun v _ => o.severity.severity_eq v.severity

/-! ## The law -/

/-- Sets for all choices, made of the same violations, in which each choice only has its own effect.
-/
structure Independent (violations : Path → List Violation)
    (sets : ConversionOptions → DiagnosticSet) : Prop where
  /-- Whatever is chosen, the same files have diagnostics, and as many of them, with the same ranges
  and rules. -/
  filled : ∀ o o', Corresponding (fun d d' => d.range = d'.range ∧ d.ruleType = d'.ruleType)
    (sets o).filled (sets o').filled
  /-- Choosing which violations are errors only changes severities. -/
  severity : ∀ (o : ConversionOptions) (policy : SeverityPolicy),
    Corresponding (fun d d' => d' = { d with severity := d'.severity })
      (sets o).toList (sets { o with severity := policy }).toList
  /-- Violations with the severity number 2 are errors if severities are graded, and all others are
  warnings. -/
  graded : ∀ o p, List.Forall₂ (fun (v : Violation) (d : Diagnostic) =>
      d.severity = if o.severity = .graded ∧ v.severity = 2 then .error else .warning)
    (violations p) (((sets o).find? p).getD [])
  /-- Choosing that messages name the rule only adds its name to the messages of the diagnostics
  that have one. -/
  ruleInMessage : ∀ o : ConversionOptions, Corresponding (fun d d' => d' = d.namingRule)
    (sets { o with ruleInMessage := false }).toList (sets { o with ruleInMessage := true }).toList
  /-- Choosing which empty files are kept only adds or removes files without diagnostics. -/
  emptyRecords : ∀ o : ConversionOptions, (sets { o with emptyRecords := .drop }).toList =
    (sets { o with emptyRecords := .retain }).filled

/-- **Choices do not get in each other's way.**  A text that cannot be read fails for the same
reason whatever is chosen.  Of a text that can be read, a set is made for each choice, and each
choice only has its own effect on it. -/
theorem choices_independent (base : Path) (text : String) :
    (∃ e, FileReport.readAll text = .error e ∧ ∀ o, ofText o base text = .error e) ∨
      ∃ reports sets, FileReport.readAll text = .ok reports ∧
        (∀ o, ofText o base text = .ok (sets o)) ∧
        Independent (FileReport.violationsOn base reports) sets := by
  cases hread : FileReport.readAll text with
  | error e =>
    refine .inl ⟨e, rfl, fun o => ?_⟩
    rw [ofText, hread]
    rfl
  | ok reports =>
    refine .inr ⟨reports, fun o => ofReports o base reports, rfl, fun o => ?_, ?_⟩
    · rw [ofText, hread]
      rfl
    · exact {
        filled := filled_corresponding
        severity := fun o policy => corresponding_ofReports rfl fun _ => rfl
        graded := fun o p => severities o base reports p
        ruleInMessage := fun o =>
          corresponding_ofReports rfl (Violation.toDiagnostic_ruleInMessage o)
        emptyRecords := fun o =>
          (toList_drop o).trans (filled_emptyRecords o .retain).symm }

end DiagnosticSet

end LintBridge
