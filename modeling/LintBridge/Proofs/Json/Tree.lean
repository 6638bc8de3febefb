/-
# Values that are read as a whole

A value that is kept as it is comes back from each of its texts, unless it is nested too deeply.

* `Shallow`: the values with a bound on their nesting.
* `Reads.tree`: they are read back.
-/
import LintBridge.Json.Tree
import LintBridge.Proofs.Json.Reading

namespace LintBridge.Json

/-- The values whose arrays and objects are nested less than `depth` levels deep. -/
inductive Shallow : Nat → Json → Prop
  | null {depth : Nat} : Shallow (depth + 1) null
  | bool {depth : Nat} (b : Bool) : Shallow (depth + 1) (bool b)
  | number {depth : Nat} (n : Number) : Shallow (depth + 1) (number n)
  | string {depth : Nat} (s : String) : Shallow (depth + 1) (string s)
  | array {depth : Nat} {items : List Json} (h : ∀ v ∈ items, Shallow (depth + 1) v) :
      Shallow (depth + 2) (array items)
  | object {depth : Nat} {members : List (String × Json)}
      (h : ∀ m ∈ members, Shallow (depth + 1) m.2) : Shallow (depth + 2) (object members)

/-- What is read of the members of an object, which are kept in reverse. -/
lemma told_tree {members : List ((String × Json) × List Char)} {item : Reader Json}
    (h : ∀ m ∈ members, Reads item m.2 m.1.2) (read : List (String × Json)) :
    Told (fun k read s => do
        let s ← readColon s
        let (v, rest) ← item s
        .ok ((k, v) :: read, rest))
      (members.map fun m => (m.1.1, m.2)) read ((members.map Prod.fst).reverse ++ read) := by
  induction members generalizing read with
  | nil => exact .nil read
  | cons m members ih =>
    obtain ⟨⟨k, v⟩, value⟩ := m
    refine .cons (b := (k, v) :: read) (fun gap gap' rest hgap hgap' hrest => ?_) ?_
    · have heq := (h _ List.mem_cons_self).eq gap' rest hgap' hrest
      simp [readColon_gap hgap, heq, bind, Except.bind]
    · rw [List.map_cons, List.reverse_cons, List.append_assoc, List.singleton_append]
      exact ih (fun m hm => h m (List.mem_cons_of_mem _ hm)) _

/-- **A value is read back from each of its texts**, whatever its depth, if it is nested less than
the reader allows. -/
lemma Reads.tree {v : Json} {text : List Char} (h : Written v text) {depth : Nat}
    (hdepth : Shallow depth v) : Reads (readTree depth) text v := by
  induction h generalizing depth with
  | null =>
    cases hdepth
    refine ⟨starts_null, fun gap rest hgap _ => ?_⟩
    rw [readTree, starts_null.skipSpaces_gap hgap]
    rfl
  | yes =>
    cases hdepth
    refine ⟨starts_true, fun gap rest hgap _ => ?_⟩
    rw [readTree, starts_true.skipSpaces_gap hgap]
    rfl
  | no =>
    cases hdepth
    refine ⟨starts_false, fun gap rest hgap _ => ?_⟩
    rw [readTree, starts_false.skipSpaces_gap hgap]
    rfl
  | @natural n text hn h =>
    cases hdepth
    obtain ⟨d, ds, rfl, hd⟩ := h.exists_cons
    have hstarts : Starts (d :: ds) := starts_number hd ds
    refine ⟨hstarts, fun gap rest hgap hrest => ?_⟩
    have hread : readNumber (d :: ds ++ rest) = .ok (.natural n, rest) := by
      rw [h]
      exact readNumber_natural hn hrest
    obtain ⟨-, hn, ht, hf, hquote, hbracket, -, hbrace, -⟩ := ne_of_startsNumber hd
    rw [readTree, hstarts.skipSpaces_gap hgap]
    rw [List.cons_append] at hread ⊢
    split
    case h_8 heq =>
      cases heq
      simp [hd, hread, ofNat, bind, Except.bind]
    -- a number starts in none of the other ways
    all_goals
      next heq =>
        cases heq <;> contradiction
  | string h =>
    cases hdepth
    obtain ⟨body, rfl, hbody⟩ := stringBody_spelled h
    refine ⟨starts_quote body, fun gap rest hgap _ => ?_⟩
    rw [readTree, (starts_quote body).skipSpaces_gap hgap]
    simp [hbody, bind, Except.bind]
  | @array items text _ h ih =>
    cases hdepth with
    | @array depth _ hshallow =>
      rw [List.forall_mem_map] at hshallow
      have hitems : List.Forall₂ (Reads (readTree (depth + 1))) (items.map Prod.snd)
          (items.map Prod.fst) := by
        rw [List.forall₂_map_left_iff, List.forall₂_map_right_iff, List.forall₂_same]
        exact fun i hi => ih i hi (hshallow i hi)
      obtain ⟨body, hbody, rfl⟩ := h
      refine ⟨starts_bracket body, fun gap rest hgap _ => ?_⟩
      rw [readTree, (starts_bracket body).skipSpaces_gap hgap]
      simp [listBody_pieces hbody hitems, bind, Except.bind]
  | @object members text _ h ih =>
    cases hdepth with
    | @object depth _ hshallow =>
      rw [List.forall_mem_map] at hshallow
      have htold := told_tree (fun m hm => ih m hm (hshallow m hm)) []
      obtain ⟨pieces, body, hpieces, hbody, rfl⟩ := h
      refine ⟨starts_brace body, fun gap rest hgap _ => ?_⟩
      have hread := objectBody_told htold hpieces hbody rest
      rw [readTree, (starts_brace body).skipSpaces_gap hgap]
      simp only [List.cons_append, Nat.add_one_ne_zero, if_false, hread]
      simp [bind, Except.bind]

end LintBridge.Json
