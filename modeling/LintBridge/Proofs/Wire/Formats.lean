/-
# The wire formats are read back

* `formats_read_back`: sets of diagnostics and lists of publications are read back from the text
  that is printed and from their compact text, events from the compact text with their members in
  any order.
-/
import LintBridge.CommandLine.Report
import LintBridge.Proofs.Wire.Event
import LintBridge.Proofs.Wire.Set

namespace LintBridge

open Json

/-- What is read back from every text of a value is read back from both of its layouts; the pretty
one is printed with a line feed at its end. -/
lemma read_layouts {α : Type} {item : Reader α} {v : Json} {a : α} (hlegible : Legible v)
    (hreads : ∀ text, Written v text → Reads item text a) :
    readAll item (v.prettyText ++ "\n").toList = .ok a ∧
      readAll item v.compactText.toList = .ok a := by
  have hline : Gap ['\n'] := by simp [Gap]
  have hpretty := (hreads _ (hlegible.pretty 0)).readAll hline
  have hcompact := (hreads _ hlegible.compact).readAll gap_nil
  constructor
  · simpa [prettyText, pretty] using hpretty
  · simpa [compactText] using hcompact

/-- **Reading undoes writing**: a set of diagnostics and a list of publications are read back from
the text that is printed and from the compact one, and an event from its compact text, whatever the
order of its members. -/
theorem formats_read_back :
    (∀ s : DiagnosticSet,
      readAll DiagnosticSet.read (s.toJson.prettyText ++ "\n").toList = .ok s ∧
        readAll DiagnosticSet.read s.toJson.compactText.toList = .ok s) ∧
    (∀ ps : List Publication,
      readAll (readList Publication.read) (reportJson ps).toList = .ok ps ∧
        readAll (readList Publication.read)
          (Json.array (ps.map Publication.toJson)).compactText.toList = .ok ps) ∧
    ∀ e : Event,
      readAll Event.read e.toJson.compactText.toList = .ok e ∧
        ∀ members members', e.toJson = .object members → members'.Perm members →
          readAll Event.read (Json.object members').compactText.toList = .ok e := by
  refine ⟨fun s => read_layouts s.legible fun _ => DiagnosticSet.reads, fun ps => ?_, fun e => ?_⟩
  · refine read_layouts (.array (List.forall_mem_map.2 fun p _ => p.legible)) fun text h => ?_
    obtain ⟨items, hitems, htext⟩ := h.of_array
    rw [List.forall₂_map_left_iff] at hitems
    exact .list htext (hitems.imp fun _ _ => Publication.reads).flip
  · have horder {members : List (String × Json)}
        (hperm : members.Perm [("event", .string e.kind.name), e.payload]) :
        readAll Event.read (Json.object members).compactText.toList = .ok e :=
      (read_layouts (Event.legible hperm) fun _ => Event.reads hperm).2
    rw [e.toJson_eq]
    refine ⟨horder (.refl _), fun members members' hmembers hperm => ?_⟩
    rw [Json.object.injEq] at hmembers
    exact horder (hmembers ▸ hperm)

/-- A command whose kind comes last, with a name that has to be escaped. -/
theorem formats_read_back_kind_last :
    (Event.command "a\"\\\n😀").toJson =
        .object [("event", .string "command"), ("name", .string "a\"\\\n😀")] ∧
      [("name", Json.string "a\"\\\n😀"), ("event", .string "command")].Perm
        [("event", .string "command"), ("name", .string "a\"\\\n😀")] ∧
      readAll Event.read
          (Json.object [("name", .string "a\"\\\n😀"),
            ("event", .string "command")]).compactText.toList =
        .ok (.command "a\"\\\n😀") := by
  have hperm : [("name", Json.string "a\"\\\n😀"), ("event", .string "command")].Perm
      [("event", .string "command"), ("name", .string "a\"\\\n😀")] := .swap _ _ []
  exact ⟨rfl, hperm, (formats_read_back.2.2 _).2 _ _ rfl hperm⟩

end LintBridge
