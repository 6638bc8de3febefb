/-
# Settings and their schema

The schema of settings and the reader of settings are two descriptions of the same objects.  Here it
is shown that they agree: whatever the schema accepts is read, and what is read off it is what the
object says.

* `Schema.Decodes`: a reader takes whatever a schema accepts.
* `Gives`, `Settings.GivenBy`: what an object says of one choice, and of all of them.
* `Settings.ofJson_of_check`: an object that the schema accepts gives settings.
* `Settings.schema_agrees`: the law about values, and about texts.
-/
import LintBridge.Proofs.Json.Members
import LintBridge.Settings.Document

namespace LintBridge

/-! ## What a schema accepts -/

namespace Schema

variable {α : Type}

/-- A reader takes every value that the schema accepts, and takes it for what is written so. -/
def Decodes (schema : Schema) (item : Json → Except Json.Fault α) (toJson : α → Json) : Prop :=
  ∀ v, schema.check v = none → ∃ x, item v = .ok x ∧ v = toJson x

lemma decodes_nonemptyText : nonemptyText.Decodes Json.asString .string
  | .string s, _ => ⟨s, rfl, rfl⟩

lemma decodes_dottedText : dottedText.Decodes Json.asString .string
  | .string s, _ => ⟨s, rfl, rfl⟩

/-- A text that may be missing, as a value. -/
def optionalToJson : Option String → Json
  | none => .null
  | some s => .string s

lemma decodes_optionalText : optionalText.Decodes (Json.asOption Json.asString) optionalToJson
  | .null, _ => ⟨none, rfl, rfl⟩
  | .string s, _ => ⟨some s, rfl, rfl⟩

lemma decodes_flag : flag.Decodes Json.asBool .bool
  | .bool b, _ => ⟨b, rfl, rfl⟩

/-- One of two names is read by a table of these names. -/
lemma decodes_oneOf (known : List (String × α)) (name : α → String) {a b : α}
    (ha : Json.named known (name a) = .ok a) (hb : Json.named known (name b) = .ok b) :
    (oneOf (name a) (name b)).Decodes (Json.asName known) fun x => .string (name x) := by
  intro v h
  cases v with
  | string s =>
    by_cases hs : s = name a ∨ s = name b
    · rcases hs with rfl | rfl
      · exact ⟨a, ha, rfl⟩
      · exact ⟨b, hb, rfl⟩
    · simp [check, hs] at h
  | _ => cases h

lemma decodes_severity : (oneOf "graded" "warning-only").Decodes (Json.asName SeverityPolicy.names)
    fun policy => .string policy.name :=
  decodes_oneOf SeverityPolicy.names SeverityPolicy.name (a := .graded) (b := .warningOnly) rfl rfl

lemma decodes_emptyRecords : (oneOf "retain" "omit").Decodes (Json.asName EmptyPolicy.names)
    fun policy => .string policy.name :=
  decodes_oneOf EmptyPolicy.names EmptyPolicy.name (a := .retain) (b := .drop) rfl rfl

lemma firstComplaint_eq_none {check : Json → Option Complaint} {vs : List Json} :
    firstComplaint check vs = none ↔ ∀ v ∈ vs, check v = none := by
  induction vs with
  | nil => simp [firstComplaint]
  | cons v rest ih => simp [firstComplaint, ih]

lemma check_list_eq_none {least : Nat} {item : Schema} {vs : List Json} :
    (list least item).check (.array vs) = none ↔
      least ≤ vs.length ∧ ∀ v ∈ vs, item.check v = none := by
  rw [check]
  split
  next hfew => simp [Nat.not_le.2 hfew]
  next hmany => simp [firstComplaint_eq_none, Nat.le_of_not_lt hmany]

/-- The items of a list are read one after another. -/
lemma Decodes.items {schema : Schema} {item : Json → Except Json.Fault α} {toJson : α → Json}
    (h : schema.Decodes item toJson) {vs : List Json} (hvs : ∀ v ∈ vs, schema.check v = none) :
    ∃ xs, vs.mapM item = .ok xs ∧ vs = xs.map toJson := by
  induction vs with
  | nil => exact ⟨[], rfl, rfl⟩
  | cons v vs ih =>
    rw [List.forall_mem_cons] at hvs
    obtain ⟨x, hx, hv⟩ := h v hvs.1
    obtain ⟨xs, hxs, hrest⟩ := ih hvs.2
    refine ⟨x :: xs, ?_, congrArg₂ List.cons hv hrest⟩
    rw [List.mapM_cons, hx, hxs]
    rfl

/-- If a reader takes whatever is accepted as an item, then the reader of lists takes whatever is
accepted as a list. -/
lemma Decodes.list {schema : Schema} {item : Json → Except Json.Fault α} {toJson : α → Json}
    (h : schema.Decodes item toJson) (least : Nat) :
    (Schema.list least schema).Decodes (Json.asList item) fun xs => .array (xs.map toJson) := by
  intro v hv
  cases v with
  | array vs =>
    obtain ⟨xs, hxs, hvs⟩ := h.items (check_list_eq_none.1 hv).2
    exact ⟨xs, hxs, congrArg Json.array hvs⟩
  | _ => cases hv

end Schema

/-! ## What an object says -/

/-- What an object says of a choice: the value of the member of that name is the choice as it is
written, and if there is no such member, then the choice is the default. -/
def Gives {α : Type} (members : List (String × Json)) (name : String) (toJson : α → Json)
    (default x : α) : Prop :=
  match Json.member? name members with
  | none => x = default
  | some v => v = toJson x

/-- What an object says of a choice is one thing, if no two choices are written alike. -/
lemma Gives.unique {α : Type} {members : List (String × Json)} {name : String} {toJson : α → Json}
    {default x y : α} (h : Gives members name toJson default x) (hinj : Function.Injective toJson)
    (h' : Gives members name toJson default y) : x = y := by
  unfold Gives at h h'
  cases hv : Json.member? name members with
  | none =>
    rw [hv] at h h'
    exact h.trans h'.symm
  | some v =>
    rw [hv] at h h'
    exact hinj (h.symm.trans h')

namespace Settings

/-- What an object says of the settings, choice by choice. -/
structure GivenBy (members : List (String × Json)) (s : Settings) : Prop where
  sourceId : Gives members "sourceId" .string ({} : Settings).sourceId s.sourceId
  extensions : Gives members "extensions" (fun xs => .array (xs.map .string))
    ({} : Settings).extensions s.extensions
  configFiles : Gives members "configFiles" (fun xs => .array (xs.map .string))
    ({} : Settings).configFiles s.configFiles
  tool : Gives members "tool" .string ({} : Settings).tool s.tool
  colorHint : Gives members "colorHint" Schema.optionalToJson
    ({} : Settings).colorHint s.colorHint
  severity : Gives members "severity" (fun p => .string p.name) ({} : Settings).severity s.severity
  emptyRecords : Gives members "emptyRecords" (fun p => .string p.name)
    ({} : Settings).emptyRecords s.emptyRecords
  ruleInMessage : Gives members "ruleInMessage" .bool
    ({} : Settings).ruleInMessage s.ruleInMessage

lemma GivenBy.unique {members : List (String × Json)} {s s' : Settings} (h : s.GivenBy members)
    (h' : s'.GivenBy members) : s = s' := by
  have hstring : Function.Injective Json.string := fun _ _ => Json.string.inj
  have hlist : Function.Injective fun xs : List String => Json.array (xs.map .string) :=
    fun _ _ heq => List.map_injective_iff.2 hstring (Json.array.inj heq)
  have hcolor : Function.Injective Schema.optionalToJson := by
    rintro (_ | _) (_ | _) ⟨⟩ <;> rfl
  have hseverity : Function.Injective fun p : SeverityPolicy => Json.string p.name := by
    rintro (_ | _) (_ | _) heq <;> first | rfl | exact absurd (hstring heq) (by decide)
  have hempty : Function.Injective fun p : EmptyPolicy => Json.string p.name := by
    rintro (_ | _) (_ | _) heq <;> first | rfl | exact absurd (hstring heq) (by decide)
  have hflag : Function.Injective Json.bool := fun _ _ => Json.bool.inj
  cases s
  cases s'
  rw [Settings.mk.injEq]
  exact ⟨h.sourceId.unique hstring h'.sourceId, h.extensions.unique hlist h'.extensions,
    h.configFiles.unique hlist h'.configFiles, h.tool.unique hstring h'.tool,
    h.colorHint.unique hcolor h'.colorHint, h.severity.unique hseverity h'.severity,
    h.emptyRecords.unique hempty h'.emptyRecords,
    h.ruleInMessage.unique hflag h'.ruleInMessage⟩

/-- The schema only accepts objects, and one of them if it accepts each member. -/
lemma check_eq_none {v : Json} :
    check v = none ↔ ∃ ms, v = .object ms ∧ ∀ m ∈ ms, checkMember m = none := by
  cases v with
  | object ms => simp [check]
  | _ => simp [check]

section Members

variable {ms : List (String × Json)} {schema : Schema} {α : Type}

lemma checkMember_of_known {name : String}
    (hknown : members.find? (fun known => known.1 = name) = some (name, schema)) (v : Json) :
    checkMember (name, v) = schema.check v := by
  rw [checkMember, hknown]

/-- If the schema accepts all members of an object, then a choice can be read off it, and it is what
the object says. -/
lemma take_accepted (hms : ∀ m ∈ ms, checkMember m = none) (name : String)
    (hknown : members.find? (fun known => known.1 = name) = some (name, schema))
    {item : Json → Except Json.Fault α} {toJson : α → Json} (hdec : schema.Decodes item toJson)
    (default : α) :
    ∃ o, take ms name item = .ok o ∧ Gives ms name toJson default (o.getD default) := by
  cases hv : Json.member? name ms with
  | none => exact ⟨none, by rw [take, hv], by rw [Gives, hv]; rfl⟩
  | some v =>
    have haccepted : schema.check v = none := by
      rw [← checkMember_of_known hknown]
      exact hms _ (Json.mem_of_member? hv)
    obtain ⟨x, hx, hwritten⟩ := hdec v haccepted
    have htake : take ms name item = (item v).map some := by rw [take, hv]
    refine ⟨some x, ?_, by rw [Gives, hv]; exact hwritten⟩
    rw [htake, hx]
    rfl

end Members

/-- **An object that the schema accepts gives settings**, and they are what it says. -/
theorem ofJson_of_check {ms : List (String × Json)} (h : check (.object ms) = none) :
    ∃ s : Settings, ofJson (.object ms) = .ok s ∧ s.GivenBy ms := by
  obtain ⟨_, ⟨rfl⟩, hms⟩ := check_eq_none.1 h
  let standard : Settings := {}
  obtain ⟨source, hsource, gsource⟩ :=
    take_accepted hms "sourceId" rfl Schema.decodes_nonemptyText standard.sourceId
  obtain ⟨extensions, hextensions, gextensions⟩ :=
    take_accepted hms "extensions" rfl (Schema.decodes_dottedText.list 0) standard.extensions
  obtain ⟨files, hfiles, gfiles⟩ :=
    take_accepted hms "configFiles" rfl (Schema.decodes_nonemptyText.list 1) standard.configFiles
  obtain ⟨tool, htool, gtool⟩ :=
    take_accepted hms "tool" rfl Schema.decodes_nonemptyText standard.tool
  obtain ⟨color, hcolor, gcolor⟩ :=
    take_accepted hms "colorHint" rfl Schema.decodes_optionalText standard.colorHint
  obtain ⟨severity, hseverity, gseverity⟩ :=
    take_accepted hms "severity" rfl Schema.decodes_severity standard.severity
  obtain ⟨empty, hempty, gempty⟩ :=
    take_accepted hms "emptyRecords" rfl Schema.decodes_emptyRecords standard.emptyRecords
  obtain ⟨rule, hrule, grule⟩ :=
    take_accepted hms "ruleInMessage" rfl Schema.decodes_flag standard.ruleInMessage
  let draft : Draft := ⟨source, extensions, files, tool, color, severity, empty, rule⟩
  refine ⟨draft.complete, ?_, gsource, gextensions, gfiles, gtool, gcolor, gseverity, gempty, grule⟩
  simp only [ofJson, hsource, hextensions, hfiles, htool, hcolor, hseverity, hempty, hrule]
  rfl

/-! ## What becomes of a text -/

/-- Nothing is read from a text but what its value gives. -/
lemma ofText_of_value {text : String} {v : Json} (h : valueOfText text = .ok v) :
    ofText text = ofValue v := by
  rw [ofText, h]

/-- Whatever the schema accepts is read. -/
lemma ofValue_of_check {v : Json} (h : check v = none) :
    ∃ ms s, v = .object ms ∧ ofJson v = .ok s ∧ s.GivenBy ms ∧ ofValue v = .ok s := by
  obtain ⟨ms, rfl, -⟩ := check_eq_none.1 h
  obtain ⟨s, hread, hgiven⟩ := ofJson_of_check h
  exact ⟨ms, s, rfl, hread, hgiven, by rw [ofValue, h, hread]⟩

/-- Of what the schema refuses, its complaint is reported. -/
lemma ofValue_of_complaint {v : Json} {complaint : Complaint} (h : check v = some complaint) :
    ofValue v = .error (.settings ("Settings validation failed: " ++ complaint.message)) := by
  rw [ofValue, h]

/-- Texts that differ at a place are different, whatever follows. -/
lemma append_ne_append {a b : String} (n : Nat) (ha : n < a.toList.length)
    (hb : n < b.toList.length) (hne : a.toList[n] ≠ b.toList[n]) (c d : String) :
    a ++ c ≠ b ++ d := by
  intro heq
  have htexts : a.toList ++ c.toList = b.toList ++ d.toList := by
    rw [← String.toList_append, ← String.toList_append, heq]
  have hchars := congrArg (fun cs => cs[n]?) htexts
  simp only [List.getElem?_append_left ha, List.getElem?_append_left hb,
    List.getElem?_eq_getElem ha, List.getElem?_eq_getElem hb] at hchars
  exact hne (Option.some.inj hchars)

/-- **The schema and the reader agree.**  If the schema accepts a value, then it is an object,
settings can be read off it, each of them is the value of the member of its name or the default if
there is no such member, and these are the settings of every text with this value.  If the schema
refuses a value, then the settings of every text with this value fail with the complaint.  So no
text fails because settings cannot be read off an accepted value. -/
theorem schema_agrees :
    (∀ v, check v = none → ∃ ms s, v = .object ms ∧ ofJson v = .ok s ∧ s.GivenBy ms ∧
      ∀ text, valueOfText text = .ok v → ofText text = .ok s) ∧
    (∀ v complaint, check v = some complaint → ∀ text, valueOfText text = .ok v →
      ofText text = .error (.settings ("Settings validation failed: " ++ complaint.message))) ∧
    ∀ text reason, ofText text ≠ .error (.settings ("Invalid settings: " ++ reason)) := by
  refine ⟨fun v hcheck => ?_, fun v complaint hcheck text hvalue => ?_,
    fun text reason hfails => ?_⟩
  · obtain ⟨ms, s, hobject, hread, hgiven, hsettings⟩ := ofValue_of_check hcheck
    refine ⟨ms, s, hobject, hread, hgiven, fun text hvalue => ?_⟩
    rw [ofText_of_value hvalue, hsettings]
  · rw [ofText_of_value hvalue, ofValue_of_complaint hcheck]
  · cases hvalue : valueOfText text with
    | error fault =>
      rw [ofText, hvalue] at hfails
      exact append_ne_append 8 (by decide) (by decide) (by decide) _ _
        (Failure.settings.inj (Except.error.inj hfails))
    | ok v =>
      rw [ofText_of_value hvalue] at hfails
      cases hcheck : check v with
      | none =>
        obtain ⟨-, s, -, -, -, hsettings⟩ := ofValue_of_check hcheck
        rw [hsettings] at hfails
        cases hfails
      | some complaint =>
        rw [ofValue_of_complaint hcheck] at hfails
        exact append_ne_append 0 (by decide) (by decide) (by decide) _ _
          (Failure.settings.inj (Except.error.inj hfails))

/-- A commented text that gives some of the choices, one of them as `null` and one of them twice,
and a text of which two members are refused. -/
theorem schema_agrees_commented :
    let text := "\x7b // mine\n tool: 'a', \"$schema\": 'b', colorHint: null, 'tool': 'd',\x7d"
    let ms : List (String × Json) :=
      [("$schema", .string "b"), ("colorHint", .null), ("tool", .string "d")]
    let s : Settings := { tool := "d", colorHint := none }
    let refused := "\x7b\"tool\":\"\",\"ruleInMessage\":null\x7d"
    let ns : List (String × Json) := [("ruleInMessage", .null), ("tool", .string "")]
    let complaint : Complaint := .wrongType .null ["boolean"]
    valueOfText text = .ok (.object ms) ∧ check (.object ms) = none ∧ ofText text = .ok s ∧
      valueOfText refused = .ok (.object ns) ∧ check (.object ns) = some complaint ∧
      ofText refused = .error (.settings
        "Settings validation failed: null is not of type \"boolean\"") := by
  intro text ms s refused ns complaint
  have hvalue : valueOfText text = .ok (.object ms) := by decide +kernel
  have hrefused : valueOfText refused = .ok (.object ns) := by decide +kernel
  have hcheck : check (.object ms) = none := rfl
  have hcomplaint : check (.object ns) = some complaint := rfl
  obtain ⟨haccepts, hrefuses, -⟩ := schema_agrees
  obtain ⟨_, s', ⟨rfl⟩, -, hgiven, hread⟩ := haccepts _ hcheck
  have hs : s' = s := hgiven.unique ⟨rfl, rfl, rfl, rfl, rfl, rfl, rfl, rfl⟩
  exact ⟨hvalue, hcheck, hs ▸ hread text hvalue, hrefused, hcomplaint,
    hrefuses _ _ hcomplaint refused hrefused⟩

end Settings

end LintBridge
