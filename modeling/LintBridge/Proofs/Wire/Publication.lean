/-
# Publications are read back

What is sent to the editor consists of records inside records: a publication has a list of
diagnostics, a diagnostic has a range, and a range has two positions.  Each of them is read back
from every text of its JSON form, however the text is laid out.

* `Position.Text`, `Range.Text`, `Diagnostic.Text`, `Publication.Text`: the texts of these records.
* `Publication.fills`, …: the records are read from these texts.
* `Publication.text_of_written`, …: the texts of the JSON form are among them.
* `Publication.legible`, …: both layouts are texts of the JSON form.
-/
import LintBridge.Proofs.Json.Layout
import LintBridge.Proofs.Json.Records
import LintBridge.Proofs.Json.Tree
import LintBridge.Publication

namespace LintBridge

open Json

lemma legible_uint32 (n : UInt32) : Legible (.ofNat n.toNat) :=
  .ofNat (Nat.lt_of_lt_of_le n.toNat_lt (by decide))

namespace Position

variable {text : List Char}

/-- The members of a position. -/
def rules (p : Position) : List Rule := [
  ⟨"line", NaturalText p.line.toNat, False⟩,
  ⟨"character", NaturalText p.character.toNat, False⟩]

/-- The texts of a position. -/
def Text (p : Position) : List Char → Prop := RecordText p.rules

/-- The draft of a position after some members have been read. -/
def draft (p : Position) (seen : List String) : Draft :=
  ⟨told seen "line" p.line, told seen "character" p.character⟩

lemma fills (p : Position) : record.Fills p.rules p.draft p := by
  refine ⟨rfl, ?_, fun seen k h => ?_, fun seen h => ?_⟩
  · refine .cons (Field.keeps_of (fun _ => told_of_not_mem) ?_ fun _ => Reads.uint32) <|
      .cons (Field.keeps_of (fun _ => told_of_not_mem) ?_ fun _ => Reads.uint32) .nil
    all_goals
      intro seen
      simp [draft, told_cons_ne]
  · simp only [rules, List.forall_mem_cons] at h
    simp [draft, told_cons_ne, h]
  · simp only [rules, List.forall_mem_cons, false_or] at h
    simp [record, draft, told_of_mem, h]

lemma text_of_written {p : Position} (h : Written p.toJson text) : p.Text text := by
  refine .of_written h ?_ ?_ ?_ ?_
  · simp
  · simp [rules]
  · simpa [rules] using ⟨fun _ => Written.of_natural, fun _ => Written.of_natural⟩
  · simp [rules]

lemma legible (p : Position) : Legible p.toJson := by
  refine .object ?_
  simpa using ⟨legible_uint32 p.line, legible_uint32 p.character⟩

lemma shallow (p : Position) (depth : Nat) : Shallow (depth + 2) p.toJson := by
  refine .object ?_
  simpa using ⟨.number _, .number _⟩

end Position

namespace Range

variable {text : List Char}

/-- The members of a range. -/
def rules (r : Range) : List Rule := [
  ⟨"start", r.start.Text, False⟩,
  ⟨"end", r.stop.Text, False⟩]

/-- The texts of a range. -/
def Text (r : Range) : List Char → Prop := RecordText r.rules

/-- The draft of a range after some members have been read. -/
def draft (r : Range) (seen : List String) : Draft :=
  ⟨told seen "start" r.start, told seen "end" r.stop⟩

lemma fills (r : Range) : record.Fills r.rules r.draft r := by
  refine ⟨rfl, ?_, fun seen k h => ?_, fun seen h => ?_⟩
  · refine .cons (Field.keeps_of (fun _ => told_of_not_mem) ?_ fun _ => r.start.fills.reads) <|
      .cons (Field.keeps_of (fun _ => told_of_not_mem) ?_ fun _ => r.stop.fills.reads) .nil
    all_goals
      intro seen
      simp [draft, told_cons_ne]
  · simp only [rules, List.forall_mem_cons] at h
    simp [draft, told_cons_ne, h]
  · simp only [rules, List.forall_mem_cons, false_or] at h
    simp [record, draft, told_of_mem, h]

lemma text_of_written {r : Range} (h : Written r.toJson text) : r.Text text := by
  refine .of_written h ?_ ?_ ?_ ?_
  · simp
  · simp [rules]
  · simpa [rules] using ⟨fun _ => Position.text_of_written, fun _ => Position.text_of_written⟩
  · simp [rules]

lemma legible (r : Range) : Legible r.toJson := by
  refine .object ?_
  simpa using ⟨r.start.legible, r.stop.legible⟩

lemma shallow (r : Range) (depth : Nat) : Shallow (depth + 3) r.toJson := by
  refine .object ?_
  simpa using ⟨r.start.shallow depth, r.stop.shallow depth⟩

end Range

lemma Severity.reads {s : Severity} {text : List Char} (h : NaturalText s.code.toNat text) :
    Reads read text s := by
  refine (Reads.uint8 h).andThen fun rest => ?_
  simp

namespace Diagnostic

variable {text : List Char}

/-- The members of a diagnostic. -/
def rules (d : Diagnostic) : List Rule := [
  ⟨"message", StringSpelling d.message, False⟩,
  ⟨"range", d.range.Text, False⟩,
  ⟨"severity", NaturalText d.severity.code.toNat, d.severity = .warning⟩,
  ⟨"ruleType", OptionText StringSpelling d.ruleType, d.ruleType = none⟩]

/-- The texts of a diagnostic. -/
def Text (d : Diagnostic) : List Char → Prop := RecordText d.rules

/-- The draft of a diagnostic after some members have been read. -/
def draft (d : Diagnostic) (seen : List String) : Draft :=
  ⟨told seen "message" d.message, told seen "range" d.range, told seen "severity" d.severity,
    told seen "ruleType" d.ruleType⟩

lemma fills (d : Diagnostic) : record.Fills d.rules d.draft d := by
  refine ⟨rfl, ?_, fun seen k h => ?_, fun seen h => ?_⟩
  · refine .cons (Field.keeps_of (fun _ => told_of_not_mem) ?_ fun _ h => Reads.string h _) <|
      .cons (Field.keeps_of (fun _ => told_of_not_mem) ?_ fun _ => d.range.fills.reads) <|
      .cons (Field.keeps_of (fun _ => told_of_not_mem) ?_ fun _ => Severity.reads) <|
      .cons (Field.keeps_of (fun _ => told_of_not_mem) ?_ fun _ => Reads.optionString) .nil
    all_goals
      intro seen
      simp [draft, told_cons_ne]
  · simp only [rules, List.forall_mem_cons] at h
    simp [draft, told_cons_ne, h]
  · simp only [rules, List.forall_mem_cons, false_or] at h
    obtain ⟨hmessage, hrange, hseverity, hrule, -⟩ := h
    simp [record, draft, told_of_mem hmessage, told_of_mem hrange, told_getD hseverity,
      told_getD hrule]

lemma text_of_written {d : Diagnostic} (h : Written d.toJson text) : d.Text text := by
  have hvalues : (∀ value, Written (.string d.message) value → StringSpelling d.message value) ∧
      (∀ value, Written d.range.toJson value → d.range.Text value) ∧
      ∀ value, Written d.severity.toJson value → NaturalText d.severity.code.toNat value :=
    ⟨fun _ => Written.of_string, fun _ => Range.text_of_written, fun _ => Written.of_natural⟩
  cases hrule : d.ruleType with
  | none =>
    rw [toJson, hrule] at h
    refine .of_written h ?_ ?_ ?_ ?_
    · simp
    · simp [rules]
    · simpa [rules] using hvalues
    · simp [rules, hrule]
  | some rule =>
    rw [toJson, hrule] at h
    have hspelled : ∀ value, Written (.string rule) value → StringSpelling rule value :=
      fun _ => Written.of_string
    refine .of_written h ?_ ?_ ?_ ?_
    · simp
    · simp [rules]
    · simpa [rules, hrule, OptionText] using ⟨hvalues.1, hvalues.2.1, hvalues.2.2, hspelled⟩
    · simp [rules, hrule]

lemma legible (d : Diagnostic) : Legible d.toJson := by
  have hcode : Legible d.severity.toJson :=
    .ofNat (Nat.lt_of_lt_of_le d.severity.code.toNat_lt (by decide))
  refine .object ?_
  cases d.ruleType with
  | none => simpa using ⟨.string d.message, d.range.legible, hcode⟩
  | some rule => simpa using ⟨.string d.message, d.range.legible, hcode, .string rule⟩

lemma shallow (d : Diagnostic) (depth : Nat) : Shallow (depth + 4) d.toJson := by
  refine .object ?_
  cases d.ruleType with
  | none => simpa using ⟨.string d.message, d.range.shallow depth, .number _⟩
  | some rule => simpa using ⟨.string d.message, d.range.shallow depth, .number _, .string rule⟩

/-- The texts of a list of diagnostics. -/
lemma listText_of_written {ds : List Diagnostic} (h : Written (listToJson ds) text) :
    ListText Text ds text := by
  obtain ⟨items, hitems, htext⟩ := h.of_array
  rw [List.forall₂_map_left_iff] at hitems
  exact ⟨items, hitems.imp fun _ _ => text_of_written, htext⟩

lemma reads_list {ds : List Diagnostic} (h : ListText Text ds text) :
    Reads (readList read) text ds := by
  obtain ⟨items, hitems, htext⟩ := h
  exact .list htext (hitems.flip.imp fun _ d => d.fills.reads)

lemma legible_list (ds : List Diagnostic) : Legible (listToJson ds) :=
  .array (List.forall_mem_map.2 fun d _ => d.legible)

lemma shallow_list (ds : List Diagnostic) (depth : Nat) : Shallow (depth + 5) (listToJson ds) :=
  .array (List.forall_mem_map.2 fun d _ => d.shallow depth)

end Diagnostic

namespace Publication

variable {text : List Char}

/-- The members of a publication. -/
def rules (p : Publication) : List Rule := [
  ⟨"source", StringSpelling p.source, False⟩,
  ⟨"filePath", StringSpelling p.path.text, False⟩,
  ⟨"diagnostics", ListText Diagnostic.Text p.diagnostics, False⟩,
  ⟨"color", OptionText StringSpelling p.color, p.color = none⟩]

/-- The texts of a publication. -/
def Text (p : Publication) : List Char → Prop := RecordText p.rules

/-- The draft of a publication after some members have been read. -/
def draft (p : Publication) (seen : List String) : Draft :=
  ⟨told seen "source" p.source, told seen "filePath" p.path.text,
    told seen "diagnostics" p.diagnostics, told seen "color" p.color⟩

lemma fills (p : Publication) : record.Fills p.rules p.draft p := by
  refine ⟨rfl, ?_, fun seen k h => ?_, fun seen h => ?_⟩
  · refine .cons (Field.keeps_of (fun _ => told_of_not_mem) ?_ fun _ h => Reads.string h _) <|
      .cons (Field.keeps_of (fun _ => told_of_not_mem) ?_ fun _ h => Reads.string h _) <|
      .cons (Field.keeps_of (fun _ => told_of_not_mem) ?_ fun _ => Diagnostic.reads_list) <|
      .cons (Field.keeps_of (fun _ => told_of_not_mem) ?_ fun _ => Reads.optionString) .nil
    all_goals
      intro seen
      simp [draft, told_cons_ne]
  · simp only [rules, List.forall_mem_cons] at h
    simp [draft, told_cons_ne, h]
  · simp only [rules, List.forall_mem_cons, false_or] at h
    obtain ⟨hsource, hpath, hdiagnostics, hcolor, -⟩ := h
    simp [record, draft, told_of_mem hsource, told_of_mem hpath, told_of_mem hdiagnostics,
      told_getD hcolor]

lemma text_of_written {p : Publication} (h : Written p.toJson text) : p.Text text := by
  have hvalues : (∀ value, Written (.string p.source) value → StringSpelling p.source value) ∧
      (∀ value, Written (.string p.path.text) value → StringSpelling p.path.text value) ∧
      ∀ value, Written (Diagnostic.listToJson p.diagnostics) value →
        ListText Diagnostic.Text p.diagnostics value :=
    ⟨fun _ => Written.of_string, fun _ => Written.of_string,
      fun _ => Diagnostic.listText_of_written⟩
  cases hcolor : p.color with
  | none =>
    rw [toJson, hcolor] at h
    refine .of_written h ?_ ?_ ?_ ?_
    · simp
    · simp [rules]
    · simpa [rules] using hvalues
    · simp [rules, hcolor]
  | some color =>
    rw [toJson, hcolor] at h
    have hspelled : ∀ value, Written (.string color) value → StringSpelling color value :=
      fun _ => Written.of_string
    refine .of_written h ?_ ?_ ?_ ?_
    · simp
    · simp [rules]
    · simpa [rules, hcolor, OptionText] using ⟨hvalues.1, hvalues.2.1, hvalues.2.2, hspelled⟩
    · simp [rules, hcolor]

lemma legible (p : Publication) : Legible p.toJson := by
  have hlist := Diagnostic.legible_list p.diagnostics
  refine .object ?_
  cases p.color with
  | none => simpa using ⟨.string p.source, .string p.path.text, hlist⟩
  | some color => simpa using ⟨.string p.source, .string p.path.text, hlist, .string color⟩

lemma shallow (p : Publication) (depth : Nat) : Shallow (depth + 6) p.toJson := by
  have hlist := Diagnostic.shallow_list p.diagnostics depth
  refine .object ?_
  cases p.color with
  | none => simpa using ⟨.string p.source, .string p.path.text, hlist⟩
  | some color => simpa using ⟨.string p.source, .string p.path.text, hlist, .string color⟩

/-- **A publication is read back** from every text of its JSON form. -/
lemma reads {p : Publication} (h : Written p.toJson text) : Reads read text p :=
  p.fills.reads (text_of_written h)

end Publication

end LintBridge
