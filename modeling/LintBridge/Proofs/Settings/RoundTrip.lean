/-
# Settings are read back

Settings are written as plain JSON and read as commented JSON, by way of the schema.  Valid settings
survive this, and no text at all leads to others than valid ones.

* `Settings.Valid`, `Settings.check_toJson`: the settings whose JSON form the schema accepts.
* `Settings.valid_of_given`: what an accepted object says of the settings is valid.
* `Settings.ofText_iff_valid`: the law about writing and reading.
-/
import LintBridge.Proofs.Json.Layout
import LintBridge.Proofs.Jsonc.Reading
import LintBridge.Proofs.Settings.Schema

namespace LintBridge

/-! ## What the schema asks of texts -/

namespace Schema

lemma check_nonemptyText_eq_none {s : String} :
    nonemptyText.check (.string s) = none ↔ s ≠ "" := by
  simp [check]

lemma check_dottedText_eq_none {s : String} :
    dottedText.check (.string s) = none ↔ s.toList.head? = some '.' := by
  simp [check]

end Schema

/-! ## Values that are given by accepted members -/

/-- A value that is given, or the default if it passes its check, passes the check. -/
lemma Gives.check {α : Type} {ms : List (String × Json)} {name : String} {toJson : α → Json}
    {default x : α} (h : Gives ms name toJson default x)
    (hms : ∀ m ∈ ms, Settings.checkMember m = none)
    (hdefault : Settings.checkMember (name, toJson default) = none) :
    Settings.checkMember (name, toJson x) = none := by
  unfold Gives at h
  cases hv : Json.member? name ms with
  | none =>
    rw [hv] at h
    rwa [h]
  | some v =>
    rw [hv] at h
    rw [← h]
    exact hms _ (Json.mem_of_member? hv)

/-- If the names are distinct, then a member gives its value. -/
lemma gives_of_mem {α : Type} {ms : List (String × Json)} {name : String} {toJson : α → Json}
    (hdistinct : (ms.map Prod.fst).Nodup) {x : α} (h : (name, toJson x) ∈ ms) (default : α) :
    Gives ms name toJson default x := by
  rw [Gives, Json.member?_of_mem hdistinct h]

namespace Settings

/-! ## Valid settings -/

/-- Settings in which nothing is missing: there are texts where texts are needed, and extensions
start with a dot. -/
structure Valid (s : Settings) : Prop where
  sourceId : s.sourceId ≠ ""
  tool : s.tool ≠ ""
  configFiles_ne_nil : s.configFiles ≠ []
  configFiles : ∀ name ∈ s.configFiles, name ≠ ""
  extensions : ∀ ext ∈ s.extensions, ext.toList.head? = some '.'

/-- The members of the JSON form. -/
def written (s : Settings) : List (String × Json) :=
  match s.toJson with
  | .object ms => ms
  | _ => []

lemma written_distinct (s : Settings) : (s.written.map Prod.fst).Nodup := by
  simp [written, toJson]

/-- An object with the same members as the JSON form gives the settings. -/
lemma givenBy_of_perm {s : Settings} {ms : List (String × Json)} (h : ms.Perm s.written) :
    s.GivenBy ms := by
  have hdistinct : (ms.map Prod.fst).Nodup := (h.map Prod.fst).nodup_iff.2 s.written_distinct
  have hcolor : ("colorHint", Schema.optionalToJson s.colorHint) ∈ s.written := by
    cases hhint : s.colorHint <;> simp [written, toJson, Schema.optionalToJson, hhint]
  constructor
  case colorHint => exact gives_of_mem hdistinct (h.mem_iff.2 hcolor) _
  all_goals exact gives_of_mem hdistinct (h.mem_iff.2 (by simp [written, toJson])) _

/-- Settings are valid if the schema accepts four of their members; it accepts the others anyway. -/
lemma valid_iff {s : Settings} :
    s.Valid ↔ checkMember ("sourceId", .string s.sourceId) = none ∧
      checkMember ("extensions", .array (s.extensions.map .string)) = none ∧
      checkMember ("configFiles", .array (s.configFiles.map .string)) = none ∧
      checkMember ("tool", .string s.tool) = none := by
  have hsource : checkMember ("sourceId", .string s.sourceId) = none ↔ s.sourceId ≠ "" :=
    Schema.check_nonemptyText_eq_none
  have hextensions : checkMember ("extensions", .array (s.extensions.map .string)) = none ↔
      ∀ ext ∈ s.extensions, ext.toList.head? = some '.' := by
    refine Schema.check_list_eq_none.trans ?_
    simp [Schema.check_dottedText_eq_none]
  have hfiles : checkMember ("configFiles", .array (s.configFiles.map .string)) = none ↔
      s.configFiles ≠ [] ∧ ∀ name ∈ s.configFiles, name ≠ "" := by
    refine Schema.check_list_eq_none.trans ?_
    simp [Schema.check_nonemptyText_eq_none, Nat.one_le_iff_ne_zero]
  have htool : checkMember ("tool", .string s.tool) = none ↔ s.tool ≠ "" :=
    Schema.check_nonemptyText_eq_none
  rw [hsource, hextensions, hfiles, htool]
  exact ⟨fun ⟨h, h', hne, hall, hext⟩ => ⟨h, hext, ⟨hne, hall⟩, h'⟩,
    fun ⟨h, hext, ⟨hne, hall⟩, h'⟩ => ⟨h, h', hne, hall, hext⟩⟩

/-- The schema accepts the JSON form of valid settings. -/
lemma Valid.check_written {s : Settings} (h : s.Valid) : ∀ m ∈ s.written, checkMember m = none := by
  obtain ⟨hsource, hextensions, hfiles, htool⟩ := valid_iff.1 h
  intro m hm
  -- the members in the order of the JSON form, the last four being accepted whatever they are
  simp only [written, toJson, List.mem_cons, List.not_mem_nil, or_false] at hm
  rcases hm with rfl | rfl | rfl | rfl | rfl | rfl | rfl | rfl
  · exact hsource
  · exact hextensions
  · exact hfiles
  · exact htool
  · cases s.colorHint <;> rfl
  · cases s.severity <;> rfl
  · cases s.emptyRecords <;> rfl
  · rfl

/-- Every default passes its own check. -/
lemma valid_default : ({} : Settings).Valid := by
  constructor <;> decide

/-- What an accepted object says of the settings is valid. -/
lemma valid_of_givenBy {s : Settings} {ms : List (String × Json)}
    (hms : ∀ m ∈ ms, checkMember m = none) (h : s.GivenBy ms) : s.Valid := by
  obtain ⟨hsource, hextensions, hfiles, htool⟩ := valid_iff.1 valid_default
  exact valid_iff.2 ⟨h.sourceId.check hms hsource, h.extensions.check hms hextensions,
    h.configFiles.check hms hfiles, h.tool.check hms htool⟩

/-! ## Writing and reading -/

/-- The JSON form is plain JSON. -/
lemma legible (s : Settings) : Json.Legible s.toJson := by
  have hstrings (xs : List String) : Json.Legible (.array (xs.map .string)) :=
    .array (by simpa using fun x _ => .string x)
  refine .object fun m hm => ?_
  simp only [List.mem_cons, List.not_mem_nil, or_false] at hm
  rcases hm with rfl | rfl | rfl | rfl | rfl | rfl | rfl | rfl
  · exact .string s.sourceId
  · exact hstrings s.extensions
  · exact hstrings s.configFiles
  · exact .string s.tool
  · cases s.colorHint with
    | none => exact .null
    | some c => exact .string c
  · exact .string s.severity.name
  · exact .string s.emptyRecords.name
  · exact .bool s.ruleInMessage

/-- There are no objects inside the JSON form. -/
lemma written_sorted (s : Settings) : (s.written.map fun m => (m.1, m.2.sorted)) = s.written := by
  cases hhint : s.colorHint <;>
    simp [written, toJson, Json.sorted, Json.sortedItems_map_string, hhint]

/-- The value of the written text has the members of the JSON form. -/
lemma valueOfText_written (s : Settings) :
    ∃ ms, valueOfText s.toJson.compactText = .ok (.object ms) ∧ ms.Perm s.written := by
  have hread : Jsonc.read s.toJson.compactText.toList = .ok (some s.toJson) := by
    have hplain := Jsonc.read_written s.legible.compact Json.gap_nil Json.gap_nil
    rwa [List.nil_append, List.append_nil, ← String.toList_ofList (l := s.toJson.compact)] at hplain
  refine ⟨Json.sortedMembers [] s.written, ?_, ?_⟩
  · rw [valueOfText, hread]
    rfl
  · have hdistinct : (([] ++ s.written).map Prod.fst).Nodup := s.written_distinct
    have hperm := Json.sortedMembers_perm hdistinct
    rwa [s.written_sorted, List.nil_append] at hperm

/-- **Settings survive being written and read, and nothing invalid gets in.**  Valid settings are
read off their own text, and whatever settings are read off a text, they are valid. -/
theorem ofText_valid :
    (∀ s : Settings, s.Valid → ofText s.toJson.compactText = .ok s) ∧
      ∀ text s, ofText text = .ok s → s.Valid := by
  constructor
  · intro s hs
    -- what is read has the members of what was written, in the order of their names
    obtain ⟨ms, hvalue, hperm⟩ := s.valueOfText_written
    have hcheck : check (.object ms) = none :=
      check_eq_none.2 ⟨ms, rfl, fun m hm => hs.check_written m (hperm.mem_iff.1 hm)⟩
    obtain ⟨_, s', ⟨rfl⟩, -, hgiven, hsettings⟩ := ofValue_of_check hcheck
    rw [ofText_of_value hvalue, hsettings, hgiven.unique (givenBy_of_perm hperm)]
  · intro text s h
    cases hvalue : valueOfText text with
    | error fault =>
      rw [ofText, hvalue] at h
      cases h
    | ok v =>
      rw [ofText_of_value hvalue] at h
      cases hcheck : check v with
      | some complaint =>
        rw [ofValue_of_complaint hcheck] at h
        cases h
      | none =>
        obtain ⟨ms, s', rfl, -, hgiven, hsettings⟩ := ofValue_of_check hcheck
        obtain ⟨_, ⟨rfl⟩, hms⟩ := check_eq_none.1 hcheck
        rw [hsettings] at h
        cases h
        exact valid_of_givenBy hms hgiven

/-- Settings whose texts have quotes, backslashes, control characters and an emoji, and a commented
text in which a name appears twice, once without quotes. -/
theorem ofText_valid_awkward :
    let s : Settings := {
      sourceId := "\"\\\n\x01"
      extensions := [".é", "."]
      configFiles := ["😀", " "]
      colorHint := none
      severity := .warningOnly
      ruleInMessage := false }
    let text := "\x7btool:'',/**/'tool':'x',\x7d"
    s.Valid ∧ ofText s.toJson.compactText = .ok s ∧
      ofText text = .ok { tool := "x" } ∧ Valid { tool := "x" } := by
  intro s text
  have hs : s.Valid := by
    constructor <;> decide
  have htext : ofText text = .ok { tool := "x" } := by decide +kernel
  obtain ⟨hsurvive, hvalid⟩ := ofText_valid
  exact ⟨hs, hsurvive s hs, htext, hvalid text _ htext⟩

end Settings

end LintBridge
