/-
# Reports are read however they are spelled

The lint tool prints a list of reports, and its own taste decides what they look like: in which
order the members come, whether what is missing is left out or `null`, which other members there
are, how strings are escaped and where white space stands.

* `Violation.rules`, `FileReport.rules`: what the members of a printed report are.
* `FileReport.Text`: the texts of a report.
* `FileReport.readAll_spelled`: every text of a list of reports is read back.
-/
import LintBridge.Proofs.Json.Layout
import LintBridge.Proofs.Json.Records
import LintBridge.Proofs.Text.Trim
import LintBridge.Report.Basic

namespace LintBridge

open Json

namespace Violation

/-- The members of a violation: only its message is needed. -/
def rules (v : Violation) : List Rule := [
  ⟨"ruleId", OptionText StringSpelling v.ruleId, v.ruleId = none⟩,
  ⟨"severity", NaturalText v.severity.toNat, v.severity = 0⟩,
  ⟨"message", StringSpelling v.message, False⟩,
  ⟨"line", OptionText (fun n => NaturalText n.toNat) v.line, v.line = none⟩,
  ⟨"column", OptionText (fun n => NaturalText n.toNat) v.column, v.column = none⟩,
  ⟨"endLine", OptionText (fun n => NaturalText n.toNat) v.endLine, v.endLine = none⟩,
  ⟨"endColumn", OptionText (fun n => NaturalText n.toNat) v.endColumn, v.endColumn = none⟩]

/-- The texts of a violation. -/
def Text (v : Violation) : List Char → Prop := RecordText v.rules

/-- The draft of a violation after some members have been read. -/
def draft (v : Violation) (seen : List String) : Draft :=
  ⟨told seen "ruleId" v.ruleId, told seen "severity" v.severity, told seen "message" v.message,
    told seen "line" v.line, told seen "column" v.column, told seen "endLine" v.endLine,
    told seen "endColumn" v.endColumn⟩

lemma fills (v : Violation) : record.Fills v.rules v.draft v := by
  refine ⟨rfl, ?_, fun seen k h => ?_, fun seen h => ?_⟩
  · refine .cons (Field.keeps_of (fun _ => told_of_not_mem) ?_ fun _ => Reads.optionString) <|
      .cons (Field.keeps_of (fun _ => told_of_not_mem) ?_ fun _ => Reads.uint8) <|
      .cons (Field.keeps_of (fun _ => told_of_not_mem) ?_ fun _ h => Reads.string h _) <|
      .cons (Field.keeps_of (fun _ => told_of_not_mem) ?_ fun _ => Reads.optionUInt32) <|
      .cons (Field.keeps_of (fun _ => told_of_not_mem) ?_ fun _ => Reads.optionUInt32) <|
      .cons (Field.keeps_of (fun _ => told_of_not_mem) ?_ fun _ => Reads.optionUInt32) <|
      .cons (Field.keeps_of (fun _ => told_of_not_mem) ?_ fun _ => Reads.optionUInt32) .nil
    all_goals
      intro seen
      simp [draft, told_cons_ne]
  · simp only [rules, List.forall_mem_cons] at h
    simp [draft, told_cons_ne, h]
  · simp only [rules, List.forall_mem_cons, false_or] at h
    obtain ⟨hrule, hseverity, hmessage, hline, hcolumn, hendLine, hendColumn, -⟩ := h
    simp [record, draft, told_of_mem hmessage, told_getD hrule, told_getD hseverity,
      told_getD hline, told_getD hcolumn, told_getD hendLine, told_getD hendColumn]

lemma reads {v : Violation} {text : List Char} (h : v.Text text) : Reads read text v :=
  v.fills.reads h

end Violation

namespace FileReport

/-- The members of a report: only the path is needed. -/
def rules (r : FileReport) : List Rule := [
  ⟨"filePath", StringSpelling r.filePath, False⟩,
  ⟨"messages", ListText Violation.Text r.violations, r.violations = []⟩]

/-- The texts of a report on a file. -/
def Text (r : FileReport) : List Char → Prop := RecordText r.rules

/-- The draft of a report after some members have been read. -/
def draft (r : FileReport) (seen : List String) : Draft :=
  ⟨told seen "filePath" r.filePath, told seen "messages" r.violations⟩

lemma fills (r : FileReport) : record.Fills r.rules r.draft r := by
  have hviolations : ∀ text, ListText Violation.Text r.violations text →
      Reads (readList Violation.read) text r.violations := by
    rintro text ⟨items, hitems, htext⟩
    exact .list htext (hitems.flip.imp fun _ _ => Violation.reads)
  refine ⟨rfl, ?_, fun seen k h => ?_, fun seen h => ?_⟩
  · refine .cons (Field.keeps_of (fun _ => told_of_not_mem) ?_ fun _ h => Reads.string h _) <|
      .cons (Field.keeps_of (fun _ => told_of_not_mem) ?_ hviolations) .nil
    all_goals
      intro seen
      simp [draft, told_cons_ne]
  · simp only [rules, List.forall_mem_cons] at h
    simp [draft, told_cons_ne, h]
  · simp only [rules, List.forall_mem_cons, false_or] at h
    obtain ⟨hpath, hviolations, -⟩ := h
    simp [record, draft, told_of_mem hpath, told_getD hviolations]

/-- There is no blank character outside the brackets of an array. -/
lemma trimmed_arrayText {items : List (List Char)} {text : List Char} (h : ArrayText items text) :
    Text.Trimmed text := by
  obtain ⟨body, hbody, rfl⟩ := h
  constructor
  · rintro c ⟨⟩
    decide
  · intro c hc
    rw [List.getLast?_cons, hbody.getLast?] at hc
    obtain rfl : ']' = c := Option.mem_some_iff.1 hc
    decide

/-- **Every text of a list of reports is read back**, whatever the order of the members, the
spelling of the strings, the members that are left out and those that are added, and the white
space. -/
theorem readAll_spelled {reports : List FileReport} {left text right : List Char}
    (h : ListText Text reports text) (hleft : ∀ c ∈ left, Text.isBlank c = true)
    (hright : ∀ c ∈ right, Text.isBlank c = true) :
    readAll (String.ofList (left ++ (text ++ right))) = .ok reports := by
  obtain ⟨items, hitems, htext⟩ := h
  have hreads : Reads (readList read) text reports :=
    .list htext (hitems.flip.imp fun _ r => r.fills.reads)
  have hwhole := hreads.readAll gap_nil
  rw [List.append_nil] at hwhole
  rw [readAll, String.toList_ofList, Text.trimChars_around (trimmed_arrayText htext) hleft hright,
    hwhole]

/-- A violation with a member that nobody knows, a member that is `null`, a name with an escape, and
without a severity. -/
def scrambledViolation : List Char :=
  "\x7b\"x\": [1e400, \"\\uD800\"],\"\\u006cine\":3,\"ruleId\":null,\"message\":\"a\"\x7d".toList

/-- Two reports: the first one gives its path last and in escapes, the second one has no list. -/
def scrambled : List Char :=
  "[\x7b\"messages\":[".toList ++ (scrambledViolation ++
    "],\t\"filePath\":\"\\/\\u00e9\\uD83d\\uDE00\"\x7d, \x7b\"filePath\":\"b\"\x7d]".toList)

lemma text_scrambledViolation :
    Violation.Text ⟨none, 0, "a", some 3, none, none, none⟩ scrambledViolation := by
  have hspace : Gap [' '] := by simp [Gap]
  have hnumber : IsNumber ([] ++ (['1'] ++ ([] ++ 'e' :: ([] ++ "400".toList)))) :=
    .parts (by simp) ⟨⟨by simp, by simp [Digit]⟩, by simp⟩ .none
      (.digits (by simp) (by simp) ⟨by simp, by simp [Digit]⟩)
  have hhalf : IsString "\"\\uD800\"".toList := by
    have hunit := CodeUnit.digits (.capital (n := 3) (by decide)) (.decimal (n := 8) (by decide))
      (.decimal (n := 0) (by decide)) (.decimal (n := 0) (by decide))
    exact ⟨[_], List.forall_mem_singleton.2 (.unit hunit), by decide⟩
  have hvalue : IsValue "[1e400, \"\\uD800\"]".toList :=
    @IsValue.array ["1e400".toList, "\"\\uD800\"".toList] _
      (by simpa using ⟨.number hnumber, .string hhalf⟩)
      ⟨_, .first gap_nil (.more gap_nil hspace (.close gap_nil)), by decide⟩
  have hkey : StringSpelling "line" "\"\\u006cine\"".toList := by
    have hunit := CodeUnit.digits (.decimal (n := 0) (by decide)) (.decimal (n := 0) (by decide))
      (.decimal (n := 6) (by decide)) (.small (n := 2) (by decide))
    exact ⟨[_, ['i'], ['n'], ['e']], .cons (.unit hunit) <| .cons (.bare (by decide)) <|
      .cons (.bare (by decide)) <| .cons (.bare (by decide)) .nil, by decide⟩
  refine ⟨[("x", "[1e400, \"\\uD800\"]".toList), ("line", ['3']), ("ruleId", "null".toList),
    ("message", "\"a\"".toList)], ⟨_, _,
      .cons ⟨_, stringSpelling_stringText _, [], [' '], gap_nil, hspace, rfl⟩ <|
      .cons ⟨_, hkey, [], [], gap_nil, gap_nil, rfl⟩ <|
      .cons ⟨_, stringSpelling_stringText _, [], [], gap_nil, gap_nil, rfl⟩ <|
      .cons ⟨_, stringSpelling_stringText _, [], [], gap_nil, gap_nil, rfl⟩ .nil,
      .first gap_nil <| .more gap_nil gap_nil <| .more gap_nil gap_nil <| .more gap_nil gap_nil <|
        .close gap_nil, by decide⟩, ?_, ?_, ?_, ?_⟩
  · have hline : ['3'] = Nat.toDigits 10 3 := by decide
    have hmessage : StringSpelling "a" "\"a\"".toList := stringSpelling_stringText "a"
    simpa [Violation.rules, OptionText, NaturalText, hline] using hmessage
  · simp [Violation.rules]
  · simp [Violation.rules]
  · simpa [Violation.rules] using hvalue

lemma text_scrambled :
    ListText Text [⟨"/é😀", [⟨none, 0, "a", some 3, none, none, none⟩]⟩, ⟨"b", []⟩] scrambled := by
  have hspace : Gap [' '] := by simp [Gap]
  have htab : Gap ['\t'] := by simp [Gap]
  have hpath : StringSpelling "/é😀" "\"\\/\\u00e9\\uD83d\\uDE00\"".toList := by
    have hunit := CodeUnit.digits (.decimal (n := 0) (by decide)) (.decimal (n := 0) (by decide))
      (.small (n := 4) (by decide)) (.decimal (n := 9) (by decide))
    have hhigh := CodeUnit.digits (.capital (n := 3) (by decide)) (.decimal (n := 8) (by decide))
      (.decimal (n := 3) (by decide)) (.small (n := 3) (by decide))
    have hlow := CodeUnit.digits (.capital (n := 3) (by decide)) (.capital (n := 4) (by decide))
      (.decimal (n := 0) (by decide)) (.decimal (n := 0) (by decide))
    have hpair := @CharSpelling.pair '😀' 0x3d 0x200 _ _ (by decide) (by decide) (by decide)
      hhigh hlow
    exact ⟨[_, _, _], .cons (.letter (l := '/') (by decide)) <| .cons (.unit hunit) <|
      .cons hpair .nil, by decide⟩
  have hviolations : ListText Violation.Text [⟨none, 0, "a", some 3, none, none, none⟩]
      ('[' :: (scrambledViolation ++ [']'])) :=
    ⟨_, .cons text_scrambledViolation .nil, _, .first gap_nil (.close gap_nil), rfl⟩
  have hfirst : Text ⟨"/é😀", [⟨none, 0, "a", some 3, none, none, none⟩]⟩
      ("\x7b\"messages\":[".toList ++ (scrambledViolation ++
        "],\t\"filePath\":\"\\/\\u00e9\\uD83d\\uDE00\"\x7d".toList)) := by
    refine ⟨[("messages", '[' :: (scrambledViolation ++ [']'])),
      ("filePath", "\"\\/\\u00e9\\uD83d\\uDE00\"".toList)], ⟨_, _,
      .cons ⟨_, stringSpelling_stringText _, [], [], gap_nil, gap_nil, rfl⟩ <|
      .cons ⟨_, stringSpelling_stringText _, [], [], gap_nil, gap_nil, rfl⟩ .nil,
      .first gap_nil <| .more gap_nil htab <| .close gap_nil, by decide⟩, ?_, ?_, ?_, ?_⟩
    · simpa [rules] using ⟨hpath, hviolations⟩
    all_goals simp [rules]
  have hsecond : Text ⟨"b", []⟩ "\x7b\"filePath\":\"b\"\x7d".toList := by
    have hname : StringSpelling "b" "\"b\"".toList := stringSpelling_stringText "b"
    refine ⟨[("filePath", "\"b\"".toList)], ⟨_, _,
      .cons ⟨_, stringSpelling_stringText _, [], [], gap_nil, gap_nil, rfl⟩ .nil,
      .first gap_nil <| .close gap_nil, by decide⟩, ?_, ?_, ?_, ?_⟩
    · simpa [rules] using hname
    all_goals simp [rules]
  refine ⟨_, .cons hfirst (.cons hsecond .nil), _,
    .first gap_nil <| .more gap_nil hspace <| .close gap_nil, ?_⟩
  decide

/-- The scrambled reports, with white space of several scripts around them. -/
theorem readAll_spelled_scrambled :
    (∀ c ∈ ['\u00a0'], Text.isBlank c = true) ∧ (∀ c ∈ ['\n', '\u3000'], Text.isBlank c = true) ∧
      ListText Text [⟨"/é😀", [⟨none, 0, "a", some 3, none, none, none⟩]⟩, ⟨"b", []⟩] scrambled ∧
      readAll (String.ofList (['\u00a0'] ++ (scrambled ++ ['\n', '\u3000']))) =
        .ok [⟨"/é😀", [⟨none, 0, "a", some 3, none, none, none⟩]⟩, ⟨"b", []⟩] := by
  have hopen : ∀ c ∈ ['\u00a0'], Text.isBlank c = true := List.forall_mem_singleton.2 (by decide)
  have hclose : ∀ c ∈ ['\n', '\u3000'], Text.isBlank c = true :=
    List.forall_mem_cons.2 ⟨by decide, List.forall_mem_singleton.2 (by decide)⟩
  exact ⟨hopen, hclose, text_scrambled, readAll_spelled text_scrambled hopen hclose⟩

end FileReport

end LintBridge
