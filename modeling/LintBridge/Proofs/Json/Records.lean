/-
# Reading records

The members of a record may come in any order, so what the draft of a record is on the way depends
only on which members have been read.  For every record there is such a draft for each set of names;
that the drafts fit to its fields is checked field by field, and the rest is the same for all
records.

* `told`: a part of a draft that is known once its member has been read.
* `Record.Fills`: the drafts of a record fit to its fields and to the rules of its members.
* `Record.Fills.reads`: then every text that keeps the rules is read as the record.
* `RecordText.of_written`: the texts of an object with the members of a record are among them.
-/
import LintBridge.Proofs.Json.Passing
import Mathlib.Data.List.Nodup

namespace LintBridge.Json

/-! ## Drafts -/

section Told

variable {β : Type} {seen : List String} {name k : String} {x default : β}

/-- A part of a draft: the value of a member if the member is among those that have been read. -/
def told (seen : List String) (name : String) (x : β) : Option β :=
  if name ∈ seen then some x else none

@[simp] lemma told_cons_self : told (name :: seen) name x = some x := if_pos List.mem_cons_self

lemma told_cons_ne (h : name ≠ k) : told (k :: seen) name x = told seen name x := by
  simp [told, h]

lemma told_of_mem (h : name ∈ seen) : told seen name x = some x := if_pos h

lemma told_of_not_mem (h : name ∉ seen) : told seen name x = none := if_neg h

/-- A part that has a default need not be told if it is the default. -/
lemma told_getD (h : x = default ∨ name ∈ seen) : (told seen name x).getD default = x := by
  rw [told]
  split
  · rfl
  next hnot => exact (h.resolve_right hnot).symm

end Told

variable {δ α β : Type} {rules : List Rule} {draft : List String → δ}

/-- A field reads the member that a rule is about, and leads from each draft to the next one. -/
structure Field.Keeps (f : Field δ) (rule : Rule) (draft : List String → δ) : Prop where
  name : f.name = rule.name
  blank : ∀ seen, rule.name ∉ seen → f.filled (draft seen) = false
  reads : ∀ seen text, rule.Value text →
    Reads (f.read (draft seen)) text (draft (rule.name :: seen))

lemma Field.keeps_of {name : String} {get : δ → Option β} {set : δ → β → δ} {item : Reader β}
    {Value : List Char → Prop} {Optional : Prop} {x : β}
    (hblank : ∀ seen, name ∉ seen → get (draft seen) = none)
    (hset : ∀ seen, set (draft seen) x = draft (name :: seen))
    (hread : ∀ text, Value text → Reads item text x) :
    (Field.of name get set item).Keeps ⟨name, Value, Optional⟩ draft where
  name := rfl
  blank seen hseen := by simp [Field.of, hblank seen hseen]
  reads seen text htext := by
    refine (hread text htext).andThen fun rest => ?_
    simp [hset]

/-- The drafts of a record fit to its fields and to the rules of its members: reading starts with
the draft for no names, every field leads to the next draft, other names make no difference, and the
draft for all names that are needed is complete. -/
structure Record.Fills (r : Record δ α) (rules : List Rule) (draft : List String → δ) (a : α) :
    Prop where
  blank : draft [] = r.blank
  fields : List.Forall₂ (fun f rule => Field.Keeps f rule draft) r.fields rules
  other : ∀ seen k, (∀ rule ∈ rules, rule.name ≠ k) → draft (k :: seen) = draft seen
  complete : ∀ seen, (∀ rule ∈ rules, rule.Optional ∨ rule.name ∈ seen) →
    r.complete (draft seen) = .ok a

/-! ## Members in any order -/

/-- A name belongs to a field and its rule, or to none. -/
lemma find?_fields {fields : List (Field δ)}
    (h : List.Forall₂ (fun f rule => Field.Keeps f rule draft) fields rules) (k : String) :
    (∃ f rule, fields.find? (fun f => f.name = k) = some f ∧ rule ∈ rules ∧ rule.name = k ∧
        f.Keeps rule draft) ∨
      fields.find? (fun f => f.name = k) = none ∧ ∀ rule ∈ rules, rule.name ≠ k := by
  induction h with
  | nil => exact .inr ⟨rfl, List.forall_mem_nil _⟩
  | @cons f rule fields rules hkeeps _ ih =>
    by_cases hname : rule.name = k
    · have hf : f.name = k := hkeeps.name.trans hname
      exact .inl ⟨f, rule, by simp [hf], List.mem_cons_self, hname, hkeeps⟩
    · have hf : f.name ≠ k := fun hf => hname (hkeeps.name.symm.trans hf)
      rcases ih with ⟨f', rule', hfind, hmem, hrest⟩ | ⟨hfind, hall⟩
      · exact .inl ⟨f', rule', by simp [hf, hfind], List.mem_cons_of_mem rule hmem, hrest⟩
      · refine .inr ⟨by simp [hf, hfind], fun rule' hrule' => ?_⟩
        rcases List.mem_cons.1 hrule' with rfl | hrule'
        · exact hname
        · exact hall rule' hrule'

namespace Record.Fills

variable {r : Record δ α} {a : α}

/-- The value of one more member leads to the next draft. -/
lemma member (h : r.Fills rules draft a) {k : String} {value : List Char} {seen : List String}
    (hrule : ∀ rule ∈ rules, k = rule.name → rule.Value value ∧ rule.name ∉ seen)
    (hother : (∀ rule ∈ rules, rule.name ≠ k) → IsValue value) {gap gap' rest : List Char}
    (hgap : Gap gap) (hgap' : Gap gap') (hrest : Ends rest) :
    r.member k (draft seen) (gap ++ ':' :: (gap' ++ (value ++ rest))) =
      .ok (draft (k :: seen), rest) := by
  rcases find?_fields h.fields k with ⟨f, rule, hfind, hmem, rfl, hkeeps⟩ | ⟨hfind, hnone⟩
  · obtain ⟨hvalue, hseen⟩ := hrule rule hmem rfl
    have hread := (hkeeps.reads seen value hvalue).eq gap' rest hgap' hrest
    simp [Record.member, hfind, hkeeps.blank seen hseen, readColon_gap hgap, hread, bind,
      Except.bind]
  · have hskip := skipValue_isValue (hother hnone) hgap' hrest
    simp [Record.member, hfind, readColon_gap hgap, hskip, h.other seen k hnone, bind, Except.bind]

/-- The members tell the record, in whatever order they come.  The induction is on the members that
are still to come, and `seen` are the names of the others. -/
lemma told_members (h : r.Fills rules draft a) {members : List (String × List Char)}
    {seen : List String}
    (hvalue : ∀ rule ∈ rules, ∀ m ∈ members, m.1 = rule.name → rule.Value m.2)
    (honce : ∀ rule ∈ rules, (seen ++ members.map Prod.fst).count rule.name ≤ 1)
    (hother : ∀ m ∈ members, (∀ rule ∈ rules, rule.name ≠ m.1) → IsValue m.2) :
    Told r.member members (draft seen) (draft ((members.map Prod.fst).reverse ++ seen)) := by
  induction members generalizing seen with
  | nil => exact .nil _
  | cons m members ih =>
    obtain ⟨k, value⟩ := m
    -- a name that has a rule does not stand both among those seen and at this member
    have hseen : ∀ rule ∈ rules, k = rule.name → rule.name ∉ seen := by
      intro rule hrule hk hmem
      have hcount := honce rule hrule
      have hpos := List.count_pos_iff.2 hmem
      rw [List.map_cons, List.count_append, hk, List.count_cons_self] at hcount
      omega
    have hrule : ∀ rule ∈ rules, k = rule.name → rule.Value value ∧ rule.name ∉ seen :=
      fun rule hrule hk => ⟨hvalue rule hrule _ List.mem_cons_self hk, hseen rule hrule hk⟩
    refine .cons (b := draft (k :: seen)) (fun gap gap' rest hgap hgap' hrest => ?_) ?_
    · exact h.member hrule (hother _ List.mem_cons_self) hgap hgap' hrest
    · rw [List.map_cons, List.reverse_cons, List.append_assoc, List.singleton_append]
      refine ih (fun rule hrule m hm => hvalue rule hrule m (List.mem_cons_of_mem _ hm)) ?_
        fun m hm => hother m (List.mem_cons_of_mem _ hm)
      intro rule hrule
      have hcount := honce rule hrule
      simp only [List.map_cons, List.count_append, List.count_cons] at hcount ⊢
      omega

/-- **A record is read from every text that keeps its rules.** -/
theorem reads (h : r.Fills rules draft a) {text : List Char} (htext : RecordText rules text) :
    Reads (readRecord r) text a := by
  obtain ⟨members, ⟨pieces, body, hpieces, hbody, rfl⟩, hfollows⟩ := htext
  refine ⟨starts_brace body, fun gap rest hgap _ => ?_⟩
  have htold : Told r.member members (draft []) (draft ((members.map Prod.fst).reverse ++ [])) :=
    h.told_members hfollows.value hfollows.once hfollows.other
  rw [List.append_nil, h.blank] at htold
  have hcomplete : r.complete (draft (members.map Prod.fst).reverse) = .ok a := by
    refine h.complete _ fun rule hrule => ?_
    rw [List.mem_reverse]
    exact hfollows.given rule hrule
  have hbodyread := objectBody_told htold hpieces hbody rest
  rw [readRecord, (starts_brace body).skipSpaces_gap hgap]
  simp [Record.ofObject, hbodyread, hcomplete, bind, Except.bind]

end Record.Fills

/-! ## Written objects -/

/-- The texts of an object are texts of a record if its members are those of the record. -/
lemma RecordText.of_written {members : List (String × Json)} {text : List Char}
    (h : Written (.object members) text) (hnames : (members.map Prod.fst).Nodup)
    (hknown : ∀ m ∈ members, ∃ rule ∈ rules, rule.name = m.1)
    (hvalue : ∀ rule ∈ rules, ∀ m ∈ members, m.1 = rule.name →
      ∀ value, Written m.2 value → rule.Value value)
    (hgiven : ∀ rule ∈ rules, rule.Optional ∨ rule.name ∈ members.map Prod.fst) :
    RecordText rules text := by
  cases h with
  | @object texts _ hvalues h =>
    rw [List.map_map] at hnames hgiven
    have hkeys : (texts.map fun m => (m.1.1, m.2)).map Prod.fst = texts.map (Prod.fst ∘ Prod.fst) :=
      List.map_map
    refine ⟨_, h, ?_, fun rule _ => ?_, fun rule hrule => ?_, ?_⟩
    · intro rule hrule m hm hname
      obtain ⟨t, ht, rfl⟩ := List.mem_map.1 hm
      exact hvalue rule hrule t.1 (List.mem_map_of_mem ht) hname t.2 (hvalues t ht)
    · rw [hkeys]
      exact List.nodup_iff_count_le_one.1 hnames rule.name
    · rw [hkeys]
      exact hgiven rule hrule
    · intro m hm hother
      obtain ⟨t, ht, rfl⟩ := List.mem_map.1 hm
      obtain ⟨rule, hrule, hname⟩ := hknown t.1 (List.mem_map_of_mem ht)
      exact absurd hname (hother rule hrule)

end LintBridge.Json
