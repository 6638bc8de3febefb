/-
# Texts cut at a mark

* `Text.split`: the stretches of a text between the marks.
* `Text.join`: stretches with a mark between any two of them.
* `Text.split_join`: stretches without a mark are found again.
-/
namespace LintBridge.Text

/-- The stretches of a text between the marks, empty ones included. -/
def split (mark : Char) : List Char → List (List Char)
  | [] => [[]]
  | c :: cs =>
    if c = mark then [] :: split mark cs
    else
      match split mark cs with
      | [] => [[c]]
      | s :: ss => (c :: s) :: ss

/-- The stretches with a mark between any two of them. -/
def join (mark : Char) : List (List Char) → List Char
  | [] => []
  | [s] => s
  | s :: ss => s ++ mark :: join mark ss

theorem split_ne_nil (mark : Char) (cs : List Char) : split mark cs ≠ [] := by
  cases cs with
  | nil => simp [split]
  | cons c cs =>
    simp only [split]
    split
    · simp
    · split <;> simp

theorem not_mem_of_mem_split {mark : Char} {cs s : List Char} (h : s ∈ split mark cs) :
    mark ∉ s := by
  induction cs generalizing s with
  | nil =>
    rw [split, List.mem_singleton] at h
    simp [h]
  | cons c cs ih =>
    simp only [split] at h
    split at h
    next =>
      rcases List.mem_cons.1 h with rfl | h
      · exact List.not_mem_nil
      · exact ih h
    next hc =>
      obtain ⟨t, ts, ht⟩ := List.exists_cons_of_ne_nil (split_ne_nil mark cs)
      rw [ht] at h ih
      rcases List.mem_cons.1 h with rfl | h
      · -- the first stretch has grown by a character that is no mark
        exact List.not_mem_cons_of_ne_of_not_mem (Ne.symm hc) (ih List.mem_cons_self)
      · exact ih (List.mem_cons_of_mem t h)

theorem split_of_not_mem {mark : Char} {s : List Char} (h : mark ∉ s) : split mark s = [s] := by
  induction s with
  | nil => rfl
  | cons c cs ih =>
    rw [List.mem_cons, not_or] at h
    rw [split, if_neg (Ne.symm h.1), ih h.2]

theorem split_append_mark (mark : Char) (s cs : List Char) :
    split mark (s ++ mark :: cs) = split mark s ++ split mark cs := by
  induction s with
  | nil => simp [split]
  | cons c s ih =>
    rw [List.cons_append, split, split]
    split
    next => rw [ih, List.cons_append]
    next =>
      obtain ⟨t, ts, ht⟩ := List.exists_cons_of_ne_nil (split_ne_nil mark s)
      rw [ih, ht]
      rfl

/-- Stretches without a mark are found again. -/
theorem split_join {mark : Char} {segments : List (List Char)} (hne : segments ≠ [])
    (h : ∀ s ∈ segments, mark ∉ s) : split mark (join mark segments) = segments := by
  induction segments with
  | nil => exact absurd rfl hne
  | cons s rest ih =>
    have hs : mark ∉ s := h s List.mem_cons_self
    cases rest with
    | nil => exact split_of_not_mem hs
    | cons t ts =>
      have hrest := ih (List.cons_ne_nil t ts) fun r hr => h r (List.mem_cons_of_mem s hr)
      rw [join, split_append_mark, split_of_not_mem hs, hrest]
      · rfl
      · exact List.cons_ne_nil t ts

end LintBridge.Text
