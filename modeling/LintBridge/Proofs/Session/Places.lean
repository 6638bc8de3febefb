/-
# One list for every place

However the lint tool and the editor spell a path, what counts is the place that it names: reports
on one place end up in one list, and linting a file finds the list of its place.  There is one
exception.  A path that leads out of the root by an odd number of `..` keeps one of them, and does
not share the list of its place.

* `Path.Equivalent`: two paths share their list.
* `Session.one_list_per_place`: the law, from the normal form of a path to what the editor shows.
* `Path.exists_up_at_root`: the exception.
-/
import LintBridge.Proofs.Project.Root
import LintBridge.Proofs.Report.Grouping
import LintBridge.Proofs.Session.Lint

namespace LintBridge

namespace Path

/-- Two paths, each seen from a directory, name one place, and `..` is met at the root an odd number
of times on the way to it for both or for neither. -/
def Equivalent (base p base' q : Path) : Prop :=
  location base p = location base' q ∧ overshoots base p % 2 = overshoots base' q % 2

instance (base p base' q : Path) : Decidable (Equivalent base p base' q) :=
  inferInstanceAs (Decidable (_ ∧ _))

variable {base base' : Path}

lemma same_normalize_iff (h : base.isAbsolute = true) (h' : base'.isAbsolute = true) (p q : Path) :
    (normalize base p).Same (normalize base' q) ↔ Equivalent base p base' q := by
  rw [Equivalent, ← normalize_eq_iff h h']
  constructor
  · exact (plain_normalize base p).eq_of_same (plain_normalize base' q)
  · exact fun heq => heq ▸ Same.refl _

end Path

/-- In a set of reports, a path finds the diagnostics of those that are equivalent to it. -/
lemma DiagnosticSet.screen_ofReports_normalize {base base' : Path} (h : base.isAbsolute = true)
    (h' : base'.isAbsolute = true) (o : ConversionOptions) (reports : List FileReport) (q : Path) :
    (ofReports o base reports).screen (.normalize base' q) =
      (reports.filter fun r => Path.Equivalent base ⟨r.filePath⟩ base' q).flatMap
        (FileReport.diagnostics o) := by
  rw [screen_ofReports, gathered]
  refine congrArg _ (List.filter_congr fun r _ => decide_eq_decide.2 ?_)
  exact Path.same_normalize_iff h h' ⟨r.filePath⟩ q

namespace Session

variable {σ : Type} {host : Host σ} {s : Session} {w : σ} {p target : Path} {autofix : Bool}
  {updated cleared : Nat}

/-- When all is published, the lint tool was called and has answered with reports, and the display
is at the end of the way. -/
lemma lintTarget_published {way : DiagnosticSet → Revision}
    (h : (s.lintTarget host target autofix way w).result = .ok (.published updated cleared)) :
    ∃ project reports,
      Project.resolve (host.isFile w) target s.settings.configFiles s.settings.tool = .ok project ∧
      reportsOf (host.run (.make project.tool project.config [target] project.root autofix) w).1 =
        .ok reports ∧
      (s.lintTarget host target autofix way w).session.display =
        (way (.ofReports s.settings.conversion project.root reports)).display := by
  rw [lintTarget] at h ⊢
  cases hset : ((s.aim (some target)).attempt host target autofix w).result with
  | error e =>
    simp only [hset] at h
    cases h
  | ok set =>
    simp only [hset] at h ⊢
    obtain ⟨project, reports, hproject, hreports, rfl⟩ := attempt_ok hset
    exact ⟨project, reports, hproject, hreports, display_send h⟩

/-- A file that is linted, and for which this is published, is accepted. -/
lemma accepts_of_published
    (h : (s.lintFile host p w).result = .ok (.published updated cleared)) :
    s.settings.accepts p = true := by
  by_contra hno
  rw [lintFile, if_neg hno] at h
  cases h

/-- **One list for every place.**  Seen from an absolute directory, a path has an absolute normal
form without `.`, which has a `..` exactly if the number of those that were met at the root is odd.
Paths that name one place have one normal form exactly if this number is odd for both or for
neither.  A set of reports has, under the normal form of a path, the diagnostics of all reports on
equivalent paths in their order.  And when a file has been linted and its diagnostics have been
published, the editor shows the diagnostics of all reports on equivalent paths, as seen from the
root of the project. -/
theorem one_list_per_place (host : Host σ) (s : Session) {base : Path}
    (h : base.isAbsolute = true) :
    (∀ p, (Path.normalize base p).isAbsolute = true ∧
      .here ∉ (Path.normalize base p).components ∧
      (.up ∈ (Path.normalize base p).components ↔ Path.overshoots base p % 2 = 1)) ∧
    (∀ p q, Path.location base p = Path.location base q →
      (Path.normalize base p = Path.normalize base q ↔
        Path.overshoots base p % 2 = Path.overshoots base q % 2)) ∧
    (∀ o reports q, (DiagnosticSet.ofReports o base reports).screen (.normalize base q) =
      (reports.filter fun r => Path.Equivalent base ⟨r.filePath⟩ base q).flatMap
        (FileReport.diagnostics o)) ∧
    (∀ p w updated cleared, host.workingDirectory w = .ok base →
      (s.lintFile host p w).result = .ok (.published updated cleared) →
      let target := Path.normalize base p
      ∃ project reports,
        Project.resolve (host.isFile w) target s.settings.configFiles s.settings.tool =
          .ok project ∧
        reportsOf (host.run (.make project.tool project.config [target] project.root false) w).1 =
          .ok reports ∧
        (s.lintFile host p w).session.display.screen target =
          (reports.filter fun r => Path.Equivalent project.root ⟨r.filePath⟩ base p).flatMap
            (FileReport.diagnostics s.settings.conversion)) := by
  refine ⟨fun p => ⟨Path.isAbsolute_normalize h p, ?_, ?_⟩, fun p q hplace => ?_, fun o reports q =>
    DiagnosticSet.screen_ofReports_normalize h h o reports q, ?_⟩
  · rw [Path.components_normalize_absolute h, Path.remnant]
    split <;> simp
  · rw [Path.components_normalize_absolute h, List.mem_cons, Path.up_mem_remnant_iff]
    simp
  · rw [Path.normalize_eq_iff h h]
    exact and_iff_right hplace
  · intro p w updated cleared hdir hpublished target
    have haccepts := accepts_of_published hpublished
    obtain ⟨name, hname⟩ := Settings.fileName?_of_accepts haccepts
    have htarget : Path.absolute (host.workingDirectory w) p = .ok target :=
      hdir ▸ Path.absolute_of_accepts haccepts base
    rw [lintFile_eq haccepts htarget] at hpublished ⊢
    obtain ⟨project, reports, hproject, hreports, hdisplay⟩ := lintTarget_published hpublished
    have hroot : project.root.isAbsolute = true :=
      Project.isAbsolute_root (Path.isAbsolute_normalize h p)
        (Path.components_normalize_ne_root h hname) hproject
    refine ⟨project, reports, hproject, hreports, ?_⟩
    rw [hdisplay, Display.screen_reviseFile, Screen.put, if_pos (Path.Same.refl _)]
    exact DiagnosticSet.screen_ofReports_normalize hroot h _ reports p

/-- A rehearsal in which the lint tool spells the file in two ways, and the editor in a third one.
-/
theorem one_list_per_place_rehearsed :
    let answer : RunResult := ⟨some 1, "[\x7b\"filePath\":\"/p/src/../a.js\"," ++
      "\"messages\":[\x7b\"message\":\"one\"\x7d]\x7d,\x7b\"filePath\":\"src//./../a.js\"," ++
      "\"messages\":[\x7b\"message\":\"two\"\x7d]\x7d]", ""⟩
    let step := (Session.start {}).lintFile Rehearsal.host ⟨"../p/a.js"⟩ ⟨[answer], 1⟩
    let target := Path.normalize ⟨"/p"⟩ ⟨"../p/a.js"⟩
    Path.normalize ⟨"/p"⟩ ⟨"src//./../a.js"⟩ = target ∧
      .here ∉ target.components ∧
      (step.session.display.screen target).map Diagnostic.message = ["one", "two"] ∧
      ∃ project reports, reportsOf (.ok answer) = .ok reports ∧
        step.session.display.screen target =
          (reports.filter fun r =>
            Path.Equivalent project ⟨r.filePath⟩ ⟨"/p"⟩ ⟨"../p/a.js"⟩).flatMap
              (FileReport.diagnostics ⟨.graded, .retain, true⟩) := by
  intro answer step target
  have hbase : (⟨"/p"⟩ : Path).isAbsolute = true := by decide +kernel
  obtain ⟨hshown, hpublished⟩ :
      (step.session.display.screen target).map Diagnostic.message = ["one", "two"] ∧
        step.result = .ok (.published 1 0) := by
    decide +kernel
  have hstep : (Session.start {}).lintFile Rehearsal.host ⟨"../p/a.js"⟩ ⟨[answer], 1⟩ = step := rfl
  obtain ⟨hforms, hequal, -, hlint⟩ := one_list_per_place Rehearsal.host (Session.start {}) hbase
  have hlaw := hlint ⟨"../p/a.js"⟩ ⟨[answer], 1⟩ 1 0 rfl
  -- the rehearsal is not to be gone through once more
  clear_value step
  rw [hstep] at hlaw
  obtain ⟨project, reports, -, hreports, hscreen⟩ := hlaw hpublished
  refine ⟨?_, (hforms _).2.1, hshown, project.root, reports, hreports, hscreen⟩
  exact (hequal ⟨"src//./../a.js"⟩ ⟨"../p/a.js"⟩ (by decide +kernel)).2 (by decide +kernel)

end Session

/-- **The exception.**  Two paths name one place, and have different normal forms: in one of them
the `..` at the root is kept. -/
theorem Path.exists_up_at_root :
    let base : Path := ⟨"/project"⟩
    base.isAbsolute = true ∧ location base ⟨"/../b"⟩ = location base ⟨"/b"⟩ ∧
      normalize base ⟨"/../b"⟩ = ⟨"/../b"⟩ ∧ normalize base ⟨"/b"⟩ = ⟨"/b"⟩ ∧
      .up ∈ (normalize base ⟨"/../b"⟩).components := by
  decide +kernel

end LintBridge
