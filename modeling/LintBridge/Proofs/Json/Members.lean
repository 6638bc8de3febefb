/-
# Members by name

An object is asked for the value of a name.  Which member answers does not depend on the order of
the members as long as their names are distinct, and then an object that is put in the order of its
names has the same members as before.

* `mem_of_member?`, `member?_of_mem`: the member that answers.
* `sortedMembers_perm`: the members in the order of their names.
-/
import LintBridge.Json.Sorted
import Mathlib.Data.List.Induction
import Mathlib.Data.List.Perm.Basic

namespace LintBridge.Json

variable {name : String} {v : Json} {ms ms' : List (String × Json)}

/-! ## The value of a name -/

lemma member?_concat (name : String) (ms : List (String × Json)) (m : String × Json) :
    member? name (ms ++ [m]) = if m.1 = name then some m.2 else member? name ms := by
  rw [member?, List.foldl_append]
  rfl

lemma mem_of_member? (h : member? name ms = some v) : (name, v) ∈ ms := by
  -- from the end, as the last member of a name is the one that answers
  induction ms using List.reverseRecOn with
  | nil => cases h
  | append_singleton ms m ih =>
    rw [member?_concat] at h
    split at h
    next heq =>
      obtain ⟨k, w⟩ := m
      cases heq
      cases h
      exact List.mem_append_right _ List.mem_cons_self
    next => exact List.mem_append_left _ (ih h)

/-- If the names are distinct, then each member answers for its name. -/
lemma member?_of_mem (hdistinct : (ms.map Prod.fst).Nodup) (h : (name, v) ∈ ms) :
    member? name ms = some v := by
  induction ms using List.reverseRecOn with
  | nil => cases h
  | append_singleton ms m ih =>
    rw [List.map_append, List.nodup_append] at hdistinct
    obtain ⟨hms, -, hnew⟩ := hdistinct
    rw [member?_concat]
    rcases List.mem_append.1 h with h | h
    · have hname : name ∈ ms.map Prod.fst := List.mem_map_of_mem h
      rw [if_neg, ih hms h]
      exact fun heq => hnew name hname m.1 (by simp) heq.symm
    · obtain rfl := List.mem_singleton.1 h
      exact if_pos rfl

/-! ## The order of the names -/

lemma enterMember_perm (v : Json) (h : name ∉ ms.map Prod.fst) :
    (enterMember name v ms).Perm ((name, v) :: ms) := by
  induction ms with
  | nil => exact .refl _
  | cons m rest ih =>
    obtain ⟨k, w⟩ := m
    rw [List.map_cons, List.mem_cons, not_or] at h
    rw [enterMember, if_neg h.1]
    split
    next => exact .refl _
    next => exact ((ih h.2).cons (k, w)).trans (.swap _ _ rest)

/-- If the names are distinct, then the members in the order of their names are the same ones. -/
lemma sortedMembers_perm (h : ((ms' ++ ms).map Prod.fst).Nodup) :
    (sortedMembers ms' ms).Perm (ms' ++ ms.map fun m => (m.1, m.2.sorted)) := by
  induction ms generalizing ms' with
  | nil => simp [sortedMembers]
  | cons m rest ih =>
    obtain ⟨k, v⟩ := m
    have hfirst : ((ms' ++ (k, v) :: rest).map Prod.fst).Perm (k :: (ms' ++ rest).map Prod.fst) :=
      List.perm_middle.map Prod.fst
    have hdistinct := hfirst.nodup_iff.1 h
    have hnew : k ∉ ms'.map Prod.fst := by
      have hnotMem := (List.nodup_cons.1 hdistinct).1
      rw [List.map_append, List.mem_append, not_or] at hnotMem
      exact hnotMem.1
    have henter := enterMember_perm v.sorted hnew
    have hentered := ((henter.append_right rest).map Prod.fst).nodup_iff.2 hdistinct
    rw [sortedMembers, List.map_cons]
    exact (ih hentered).trans ((henter.append_right _).trans List.perm_middle.symm)

/-- Strings have no members that could be put in order. -/
lemma sortedItems_map_string (xs : List String) :
    sortedItems (xs.map .string) = xs.map .string := by
  induction xs with
  | nil => rfl
  | cons x xs ih => simp [sortedItems, sorted, ih]

end LintBridge.Json
