/-
# Reports that break off

What the lint tool prints may break off, when it is killed or its output is not read to the end.  A
start of a printed text is never taken for reports: if it were, then the rest of the text could only
be white space, and there is none at its end.

* `Violation.settled`, `FileReport.settled`: records are read to their ends.
* `FileReport.truncated_refused`: a start of a printed text is refused, and an operation that is
  given it by the lint tool fails, leaves the editor alone and changes nothing that the editor
  shows.
-/
import LintBridge.Proofs.Json.Steady.Reading
import LintBridge.Proofs.Session.Outcome
import LintBridge.Proofs.Text.Trim

namespace LintBridge

open Json

lemma Violation.settled : record.Settled := by
  have hstring : Settled readString := (closed_readStringAs "a string").settled
  have hoption := settled_readOption settled_readUInt32
  simp only [Record.Settled, record, List.forall_mem_cons]
  exact ⟨settled_field (settled_readOption hstring), settled_field settled_readUInt8,
    settled_field hstring, settled_field hoption, settled_field hoption, settled_field hoption,
    settled_field hoption, List.forall_mem_nil _⟩

lemma FileReport.settled : record.Settled := by
  have hviolations : Settled (readList Violation.read) :=
    (closed_readList (closed_readRecord Violation.settled).settled).settled
  simp only [Record.Settled, record, List.forall_mem_cons]
  exact ⟨settled_field (closed_readStringAs "a string").settled, settled_field hviolations,
    List.forall_mem_nil _⟩

namespace FileReport

lemma closed_list : Closed (readList read) :=
  closed_readList (closed_readRecord settled).settled

lemma isBlank_of_isSpace {c : Char} (h : isSpace c = true) : Text.isBlank c = true := by
  simp only [isSpace, Bool.or_eq_true, decide_eq_true_eq] at h
  rcases h with ((rfl | rfl) | rfl) | rfl <;> decide

lemma readAll_ok_iff {text : String} {reports : List FileReport} :
    readAll text = .ok reports ↔
      Json.readAll (readList read) (Text.trimChars text.toList) = .ok reports := by
  unfold readAll
  cases Json.readAll (readList read) (Text.trimChars text.toList) <;> simp

/-- A text that is not read is refused as a text. -/
lemma readAll_refused {text : String} (h : ∀ reports, readAll text ≠ .ok reports) :
    ∃ reason, readAll text = .error (.parse reason) := by
  unfold readAll at h ⊢
  cases hread : Json.readAll (readList read) (Text.trimChars text.toList) with
  | error fault => exact ⟨_, rfl⟩
  | ok reports =>
    rw [hread] at h
    exact absurd rfl (h reports)

/-- A start of a printed text is not read.  What is left of it without white space at its end is a
start of the text, too, and could only be followed by white space. -/
lemma truncated_ne_ok {text : String} {reports : List FileReport} {cut : List Char}
    (h : readAll text = .ok reports) (hcut : cut <+: Text.trimChars text.toList)
    (hproper : cut ≠ Text.trimChars text.toList) (reports' : List FileReport) :
    readAll (String.ofList cut) ≠ .ok reports' := by
  intro hread
  rw [readAll_ok_iff] at h hread
  rw [String.toList_ofList] at hread
  have htrimmed := Text.trimmed_trimChars text.toList
  obtain ⟨blanks, hblanks⟩ := Text.exists_trim_prefix htrimmed hcut
  obtain ⟨more, hmore⟩ := hcut
  have hne : more ≠ [] := by
    rintro rfl
    exact hproper (by rw [← hmore, List.append_nil])
  -- both the trimmed start and the text are whole, so only white space lies between their ends
  have hwhole :
      Json.readAll (readList read) (Text.trimChars cut ++ (blanks ++ more)) = .ok reports := by
    rwa [← List.append_assoc, ← hblanks, hmore]
  have hspaces := closed_list.isSpace_of_readAll hread hwhole
  -- but the text does not end with white space
  have hlast : (Text.trimChars text.toList).getLast? = some (more.getLast hne) := by
    rw [← hmore, List.getLast?_append, List.getLast?_eq_getLast_of_ne_nil hne]
    rfl
  have hspace := hspaces _ (List.mem_append_right blanks (List.getLast_mem hne))
  have hblank := htrimmed.last _ hlast
  rw [isBlank_of_isSpace hspace] at hblank
  cases hblank

/-- An operation fails when the printed text of a run that ended well is refused. -/
lemma perform_of_readAll_error {σ : Type} {host : Host σ} {s : Session} {op : Operation} {w : σ}
    {call : Invocation} {code : Int} {stdout stderr reason : String}
    (hcode : code = 0 ∨ code = 1) (hread : readAll stdout = .error (.parse reason)) :
    let step := s.perform host.watched op ⟨w, []⟩
    .ran call (.ok ⟨some code, stdout, stderr⟩) ∈ step.world.log →
      step.result = .error (.parse reason) ∧
        step.world.log = [.ran call (.ok ⟨some code, stdout, stderr⟩)] ∧
        step.session.display = s.display := by
  intro step hran
  have hreport : RunResult.report ⟨some code, stdout, stderr⟩ = .ok stdout := by
    rcases hcode with rfl | rfl <;> rfl
  have hreading : s.reading call (.ok ⟨some code, stdout, stderr⟩) = .error (.parse reason) := by
    simp [Session.reading, hreport, DiagnosticSet.ofText, hread, bind, Except.bind, Except.map]
  obtain ⟨result, contacts, htakes, hresult⟩ := s.perform_takes host ⟨w, []⟩ op
  have hlog : step.world.log = contacts := htakes.log_eq
  rw [hlog] at hran ⊢
  obtain ⟨rfl, hcontacts, hdisplay⟩ := htakes.course.only_ran hran hreading
  -- only a missing configuration is excused
  exact ⟨hresult.elim id id, hcontacts, hdisplay⟩

/-- **A start of a printed text is never taken for reports.**  It is refused as a text, and an
operation for which the lint tool printed it and ended well fails with the same words: nothing else
passes between the session and its surroundings, and the display stays as it is. -/
theorem truncated_refused {text : String} {reports : List FileReport} {cut : List Char}
    (htext : readAll text = .ok reports) (hcut : cut <+: Text.trimChars text.toList)
    (hproper : cut ≠ Text.trimChars text.toList) :
    ∃ reason,
      readAll (String.ofList cut) = .error (.parse reason) ∧
      (∀ o base, DiagnosticSet.ofText o base (String.ofList cut) = .error (.parse reason)) ∧
      ∀ (σ : Type) (host : Host σ) (s : Session) (op : Operation) (w : σ) (call : Invocation)
        (code : Int) (stderr : String), code = 0 ∨ code = 1 →
        let answer : RunResult := ⟨some code, String.ofList cut, stderr⟩
        let step := s.perform host.watched op ⟨w, []⟩
        .ran call (.ok answer) ∈ step.world.log →
          step.result = .error (.parse reason) ∧ step.world.log = [.ran call (.ok answer)] ∧
            step.session.display = s.display := by
  obtain ⟨reason, hreason⟩ := readAll_refused (truncated_ne_ok htext hcut hproper)
  refine ⟨reason, hreason, fun o base => ?_, ?_⟩
  · rw [DiagnosticSet.ofText, hreason]
    rfl
  · intro σ host s op w call code stderr hcode answer step
    exact perform_of_readAll_error hcode hreason

/-- A rehearsal in which the text breaks off inside a string, behind a character that counts as
white space around a text. -/
theorem truncated_refused_rehearsed :
    let text := "\u00a0[\x7b\"filePath\":\"a\u3000b\"\x7d]\n"
    let cut := "[\x7b\"filePath\":\"a\u3000".toList
    let answer : RunResult := ⟨some 1, String.ofList cut, ""⟩
    let call := Invocation.make ⟨"eslint"⟩ ⟨"/p/.eslintrc"⟩ [⟨"/p/a.js"⟩] ⟨"/p"⟩ false
    let s := Session.start {}
    let step := s.perform Rehearsal.host.watched (.lintFile ⟨"a.js"⟩) ⟨⟨[answer], 5⟩, []⟩
    readAll text = .ok [⟨"a\u3000b", []⟩] ∧ cut <+: Text.trimChars text.toList ∧
      cut ≠ Text.trimChars text.toList ∧ .ran call (.ok answer) ∈ step.world.log ∧
      ∃ reason, readAll (String.ofList cut) = .error (.parse reason) ∧
        step.result = .error (.parse reason) ∧ step.world.log = [.ran call (.ok answer)] ∧
        step.session.display = s.display := by
  intro text cut answer call s step
  have htext : readAll text = .ok [⟨"a\u3000b", []⟩] := by decide +kernel
  have hcut : cut <+: Text.trimChars text.toList := by decide +kernel
  have hproper : cut ≠ Text.trimChars text.toList := by decide +kernel
  have hran : .ran call (.ok answer) ∈ step.world.log := by decide +kernel
  obtain ⟨reason, hread, -, hperform⟩ := truncated_refused htext hcut hproper
  exact ⟨htext, hcut, hproper, hran, reason, hread, hperform _ _ _ _ _ _ _ _ (.inr rfl) hran⟩

end FileReport

end LintBridge
