/-
# Events are read back

An event is written with its kind first, but its members are known by their names, so it is read
back as well when its kind comes last.

* `Event.reads`: an event is read back from every text of its JSON form, and of the same members in
  another order.
* `Event.legible`: both layouts are texts of an object with these members.
-/
import LintBridge.Event
import LintBridge.Proofs.Json.Layout
import LintBridge.Proofs.Json.Tree

namespace LintBridge.Event

open Json

variable {text : List Char}

/-- The kind of an event. -/
def kind : Event → Kind
  | bufferSaved _ => .bufferSaved
  | bufferEnter _ => .bufferEnter
  | command _ => .command

/-- The name of a kind. -/
def Kind.name : Kind → String
  | bufferSaved => "bufferSaved"
  | bufferEnter => "bufferEnter"
  | command => "command"

lemma Kind.named_name (kind : Kind) : named Kind.names kind.name = .ok kind := by
  cases kind <;> rfl

/-- The member of an event besides its kind. -/
def payload : Event → String × Json
  | bufferSaved p => ("filePath", pathToJson p)
  | bufferEnter p => ("filePath", pathToJson p)
  | command name => ("name", .string name)

lemma toJson_eq (e : Event) : e.toJson = .object [("event", .string e.kind.name), e.payload] := by
  cases e <;> rfl

lemma payload_ne (e : Event) : e.payload.1 ≠ "event" := by
  cases e <;> simp [payload]

lemma asPath_pathToJson (p : Option Path) : asPath (pathToJson p) = .ok p := by
  cases p <;> rfl

lemma ofMembers_payload (e : Event) : ofMembers e.kind [e.payload] = .ok e := by
  cases e <;> simp [ofMembers, kind, payload, onlyMember, asPath_pathToJson, asString, asStringAs,
    bind, Except.bind, pure, Except.pure]

lemma legible_pathToJson (p : Option Path) : Legible (pathToJson p) := by
  cases p with
  | none => exact .null
  | some p => exact .string p.text

lemma legible_payload (e : Event) : Legible e.payload.2 := by
  cases e with
  | bufferSaved p => exact legible_pathToJson p
  | bufferEnter p => exact legible_pathToJson p
  | command name => exact .string name

lemma shallow_pathToJson (p : Option Path) (depth : Nat) : Shallow (depth + 1) (pathToJson p) := by
  cases p with
  | none => exact .null
  | some p => exact .string p.text

lemma shallow_payload (e : Event) (depth : Nat) : Shallow (depth + 1) e.payload.2 := by
  cases e with
  | bufferSaved p => exact shallow_pathToJson p depth
  | bufferEnter p => exact shallow_pathToJson p depth
  | command name => exact .string name

section Members

variable {draft : Draft} {value gap gap' rest : List Char}

lemma readMember_kind {kind : Kind} (h : StringSpelling kind.name value)
    (hdraft : draft.kind = none) (hgap : Gap gap) (hgap' : Gap gap') (hrest : Ends rest) :
    readMember "event" draft (gap ++ ':' :: (gap' ++ (value ++ rest))) =
      .ok ({ draft with kind := some kind }, rest) := by
  have hname := (Reads.string h "variant identifier").eq gap' rest hgap' hrest
  simp [readMember, hdraft, readColon_gap hgap, readKind, hname, Kind.named_name, bind, Except.bind]

lemma readMember_payload {e : Event} (h : Written e.payload.2 value) (hgap : Gap gap)
    (hgap' : Gap gap') (hrest : Ends rest) :
    readMember e.payload.1 draft (gap ++ ':' :: (gap' ++ (value ++ rest))) =
      .ok ({ draft with members := e.payload :: draft.members }, rest) := by
  have hinner := (Reads.tree h (e.shallow_payload 126)).eq gap' rest hgap' hrest
  have hread : readInner (gap' ++ (value ++ rest)) = .ok (e.payload.2, rest) := hinner
  simp [readMember, e.payload_ne, readColon_gap hgap, hread, bind, Except.bind]

end Members

lemma perm_pair {α : Type} {l : List α} {a b : α} (h : l.Perm [a, b]) :
    l = [a, b] ∨ l = [b, a] := by
  obtain ⟨c, d, rfl⟩ := List.length_eq_two.1 h.length_eq
  have hc : c = a ∨ c = b := by simpa using h.subset List.mem_cons_self
  rcases hc with rfl | rfl
  · have hd := List.singleton_perm_singleton.1 (h.cons_inv)
    exact .inl (by rw [hd])
  · have hd := List.singleton_perm_singleton.1 (h.trans (.swap c a [])).cons_inv
    exact .inr (by rw [hd])

/-- **An event is read back** from every text of an object with its members, in any order. -/
lemma reads {e : Event} {members : List (String × Json)}
    (hmembers : members.Perm [("event", .string e.kind.name), e.payload])
    (h : Written (.object members) text) : Reads read text e := by
  obtain ⟨texts, htexts, pieces, body, hpieces, hbody, rfl⟩ := h.of_object
  have htold : Told readMember texts ⟨none, []⟩ ⟨some e.kind, [e.payload]⟩ := by
    -- of two members, either the kind or the other one comes first
    rcases perm_pair hmembers with rfl | rfl
    · match texts, htexts with
      | [(_, _), (_, _)], .cons ⟨rfl, hkind⟩ (.cons ⟨rfl, hvalue⟩ .nil) =>
        exact .cons (fun _ _ _ => readMember_kind hkind.of_string rfl) <|
          .cons (fun _ _ _ => readMember_payload hvalue) <| .nil _
    · match texts, htexts with
      | [(_, _), (_, _)], .cons ⟨rfl, hvalue⟩ (.cons ⟨rfl, hkind⟩ .nil) =>
        exact .cons (fun _ _ _ => readMember_payload hvalue) <|
          .cons (fun _ _ _ => readMember_kind hkind.of_string rfl) <| .nil _
  refine ⟨starts_brace body, fun gap rest hgap _ => ?_⟩
  have hread := objectBody_told htold hpieces hbody rest
  rw [read, (starts_brace body).skipSpaces_gap hgap]
  simp [ofObject, hread, ofMembers_payload, bind, Except.bind]

/-- Both layouts are texts of an object with the members of an event. -/
lemma legible {e : Event} {members : List (String × Json)}
    (hmembers : members.Perm [("event", .string e.kind.name), e.payload]) :
    Legible (.object members) := by
  refine .object fun m hm => ?_
  have hm' := hmembers.subset hm
  simp only [List.mem_cons, List.not_mem_nil, or_false] at hm'
  rcases hm' with rfl | rfl
  · exact .string e.kind.name
  · exact e.legible_payload

end LintBridge.Event
