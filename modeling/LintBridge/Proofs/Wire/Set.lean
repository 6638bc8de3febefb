/-
# Diagnostic sets are read back

A set is written with a member for each file, in path order.  When it is read, every file comes
after those that have been entered, so it is entered at the end, and its path keeps its spelling.

* `PathMap.entries_insert_last`: a key after all others is entered at the end.
* `DiagnosticSet.reads`: a set is read back from every text of its JSON form.
* `DiagnosticSet.legible`: both layouts are texts of the JSON form.
-/
import LintBridge.Diagnostic.Set
import LintBridge.Proofs.Wire.Publication

namespace LintBridge

open Json

namespace PathMap

variable {α : Type} {p : Path}

lemma upsertList_last {l : List (Path × α)} (h : ∀ e ∈ l, e.1.order p = .lt) (f : Option α → α) :
    upsertList p f l = l ++ [(p, f none)] := by
  induction l with
  | nil => rfl
  | cons e rest ih =>
    obtain ⟨q, v⟩ := e
    have hgt : p.order q = .gt := Path.order_gt_iff.2 (h (q, v) List.mem_cons_self)
    rw [upsertList, hgt]
    exact congrArg _ (ih fun e he => h e (List.mem_cons_of_mem _ he))

/-- A key that comes after all others is entered at the end. -/
lemma entries_insert_last {m : PathMap α} (h : ∀ e ∈ m.entries, e.1.order p = .lt) (v : α) :
    (m.insert p v).entries = m.entries ++ [(p, v)] :=
  upsertList_last h _

end PathMap

namespace DiagnosticSet

variable {text : List Char}

/-- The lists of the files are entered one after another.  The induction is on the files that are
still to come, which come after all those of the set. -/
lemma told_entries {rest : List (Path × List Diagnostic)} {texts : List (String × List Char)}
    (h : List.Forall₂ (fun e t => e.1.text = t.1 ∧ ListText Diagnostic.Text e.2 t.2) rest texts)
    {s s' : DiagnosticSet} (hs : s'.toList = s.toList ++ rest) : Told readMember texts s s' := by
  induction h generalizing s with
  | nil =>
    rw [List.append_nil] at hs
    rw [eq_of_toList hs]
    exact .nil s
  | @cons e t rest texts hentry _ ih =>
    obtain ⟨p, ds⟩ := e
    obtain ⟨k, value⟩ := t
    obtain ⟨hk, hds⟩ := hentry
    obtain rfl : p.text = k := hk
    have hlast : ∀ e ∈ s.files.entries, e.1.order p = .lt := by
      have hordered : Ordered (s.toList ++ (p, ds) :: rest) := hs ▸ s'.files.ordered
      exact fun e he => (List.pairwise_append.1 hordered).2.2 e he (p, ds) List.mem_cons_self
    have hnext := PathMap.entries_insert_last hlast ds
    refine .cons (b := ⟨s.files.insert p ds⟩) (fun gap gap' after hgap hgap' hafter => ?_) (ih ?_)
    · have hread := (Diagnostic.reads_list hds).eq gap' after hgap' hafter
      simp [readMember, readColon_gap hgap, hread, bind, Except.bind]
    · have hlist : toList ⟨s.files.insert p ds⟩ = s.toList ++ [(p, ds)] := hnext
      rw [hs, hlist, List.append_assoc, List.singleton_append]

/-- **A set is read back** from every text of its JSON form. -/
lemma reads {s : DiagnosticSet} (h : Written s.toJson text) : Reads read text s := by
  obtain ⟨texts, htexts, pieces, body, hpieces, hbody, rfl⟩ := h.of_object
  rw [List.forall₂_map_left_iff] at htexts
  have htold : Told readMember texts empty s :=
    told_entries (htexts.imp fun _ _ h => ⟨h.1, Diagnostic.listText_of_written h.2⟩) rfl
  refine ⟨starts_brace body, fun gap rest hgap _ => ?_⟩
  rw [read, (starts_brace body).skipSpaces_gap hgap]
  exact objectBody_told htold hpieces hbody rest

lemma legible (s : DiagnosticSet) : Legible s.toJson :=
  .object (List.forall_mem_map.2 fun e _ => Diagnostic.legible_list e.2)

end DiagnosticSet

end LintBridge
