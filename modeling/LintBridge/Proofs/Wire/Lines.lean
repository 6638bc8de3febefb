/-
# The lines for the editor

Everything that the editor is told goes into a stream of lines: a line for each publication and one
for each failure.  No text that is written contains a line feed, so the lines are found again, and
from each of them it is clear what it is.

* `Notice`, `transcript`: what the editor is told, and the stream of its lines.
* `transcript_framed`: the stream has a line for each notice, from which the notice is read back,
  and which is not taken for a notice of the other kind.
* `Service.answer_eq`: what is printed about a step of a session is such a stream.
-/
import LintBridge.CommandLine.Serve
import LintBridge.Proofs.Wire.Publication
import LintBridge.Text.Split

namespace LintBridge

open Json

/-- What the editor is told. -/
inductive Notice where
  /-- The diagnostics of a file. -/
  | publication (p : Publication)
  /-- Something could not be done. -/
  | failure (e : Failure)

namespace Notice

/-- The value that is written. -/
def toJson : Notice → Json
  | publication p => p.toJson
  | failure e => .object [("error", .string e.message)]

/-- The line that brings a notice to the editor. -/
def line : Notice → String
  | publication p => publicationLine p
  | failure e => failureLine e

lemma line_eq (n : Notice) : n.line = n.toJson.compactText ++ "\n" := by
  cases n <;> rfl

/-- A line tells a notice, and is not taken for a notice of the other kind. -/
def Tells (line : List Char) : Notice → Prop
  | publication p => readAll Publication.read line = .ok p ∧
      ∀ v, readAll (readTree maxDepth) line ≠ .ok (.object [("error", v)])
  | failure e => readAll (readTree maxDepth) line = .ok (.object [("error", .string e.message)]) ∧
      ∀ p, readAll Publication.read line ≠ .ok p

end Notice

/-- The stream of lines for some notices. -/
def transcript (ns : List Notice) : String := String.join (ns.map Notice.line)

/-! ## What a line is -/

lemma readAll_tree {v : Json} {text : List Char} (h : Written v text)
    (hdepth : Shallow maxDepth v) : readAll (readTree maxDepth) text = .ok v := by
  simpa using (Reads.tree h hdepth).readAll gap_nil

lemma Publication.tells (p : Publication) : Notice.Tells p.toJson.compact (.publication p) := by
  have hread := (Publication.reads p.legible.compact).readAll gap_nil
  rw [List.append_nil] at hread
  refine ⟨hread, fun v => ?_⟩
  rw [readAll_tree p.legible.compact (p.shallow 122)]
  simp [Publication.toJson]

/-- An object without a source is no publication. -/
lemma readAll_publication_error {s : String} {text : List Char}
    (h : Written (.object [("error", .string s)]) text) :
    readAll Publication.read text = .error (.missingMember "source") := by
  obtain ⟨texts, htexts, pieces, body, hpieces, hbody, rfl⟩ := h.of_object
  match texts, htexts with
  | [(_, value)], .cons ⟨rfl, hvalue⟩ .nil =>
    -- the member is passed over, as in the text of any publication
    let p : Publication := default
    have hother : ∀ rule ∈ p.rules, rule.name ≠ "error" := by simp [Publication.rules]
    have htold :
        Told Publication.record.member [("error", value)] (p.draft []) (p.draft ["error"]) := by
      refine p.fills.told_members ?_ ?_ ?_
      · simpa using fun rule hrule hname => absurd hname.symm (hother rule hrule)
      · intro rule hrule
        simp [(hother rule hrule).symm]
      · simpa using fun _ => IsValue.string hvalue.of_string.isString
    rw [p.fills.other [] "error" hother, p.fills.blank] at htold
    have hread := objectBody_told htold hpieces hbody []
    rw [List.append_nil] at hread
    have hcomplete : Publication.record.complete Publication.record.blank = .error "source" := rfl
    have hobject : Publication.record.ofObject body = .error (.missingMember "source") := by
      simp [Record.ofObject, hread, hcomplete, bind, Except.bind]
    have hrecord : Publication.read ('\x7b' :: body) = .error (.missingMember "source") := hobject
    simp [readAll, hrecord, bind, Except.bind]

lemma Failure.legible (e : Failure) : Legible (.object [("error", .string e.message)]) :=
  .object (List.forall_mem_singleton.2 (.string e.message))

lemma Failure.tells (e : Failure) :
    Notice.Tells (Json.object [("error", .string e.message)]).compact (.failure e) := by
  refine ⟨readAll_tree e.legible.compact ?_, fun p => ?_⟩
  · exact .object (List.forall_mem_singleton.2 (.string e.message))
  · rw [readAll_publication_error e.legible.compact]
    exact fun h => by cases h

lemma Notice.tells (n : Notice) : n.Tells n.toJson.compact := by
  cases n with
  | publication p => exact p.tells
  | failure e => exact e.tells

lemma Notice.legible (n : Notice) : Legible n.toJson := by
  cases n with
  | publication p => exact p.legible
  | failure e => exact e.legible

/-! ## The lines of a stream -/

@[simp] lemma transcript_nil : transcript [] = "" := rfl

lemma transcript_cons (n : Notice) (ns : List Notice) :
    (transcript (n :: ns)).toList = n.toJson.compact ++ '\n' :: (transcript ns).toList := by
  simp [transcript, Notice.line_eq, compactText]

/-- The lines of a stream are those of its notices, and an empty one behind the last line feed. -/
lemma split_transcript (ns : List Notice) :
    Text.split '\n' (transcript ns).toList = ns.map (fun n => n.toJson.compact) ++ [[]] := by
  induction ns with
  | nil => rfl
  | cons n ns ih =>
    have hfeed : '\n' ∉ n.toJson.compact :=
      fun hmem => absurd (n.legible.printable _ hmem) (by decide)
    rw [transcript_cons, Text.split_append_mark, Text.split_of_not_mem hfeed, ih]
    rfl

/-- **The stream has a line for each notice**, in their order and each with a line feed at its end,
and every line tells its notice. -/
theorem transcript_framed (ns : List Notice) :
    ∃ lines, Text.split '\n' (transcript ns).toList = lines ++ [[]] ∧
      List.Forall₂ Notice.Tells lines ns := by
  refine ⟨_, split_transcript ns, ?_⟩
  rw [List.forall₂_map_left_iff, List.forall₂_same]
  exact fun n _ => n.tells

/-! ## What is printed while an editor is served -/

lemma transcript_append (ns ns' : List Notice) :
    transcript (ns ++ ns') = transcript ns ++ transcript ns' := by
  simp [transcript]

section Serve

variable {σ : Type}

/-- What the editor is told about a step: what was sent, and the failure if there was one. -/
def Step.notices (step : Step σ) : List Notice :=
  step.sent.map .publication ++
    match step.result with
    | .ok _ => []
    | .error e => [.failure e]

lemma Service.answer_eq (step : Step σ) : Service.answer step = transcript step.notices := by
  have hsent : String.join (step.sent.map publicationLine) =
      transcript (step.sent.map .publication) := by
    simp [transcript, Function.comp_def, Notice.line]
  rw [Service.answer, Step.notices, transcript_append, hsent]
  cases step.result with
  | ok _ => simp
  | error e => simp [transcript, Notice.line]

end Serve

end LintBridge
