/-
# Blank characters around a text

* `Text.trimChars_around`: exactly the blank characters at both ends go away.
* `Text.Trimmed`: the texts without blank characters at their ends, and `Text.trimmed_trimChars`.
* `Text.exists_trim_prefix`: of a part at the start of such a text, only its end is trimmed.
-/
import LintBridge.Text.Blank
import Mathlib.Data.List.Basic
import Mathlib.Data.List.TakeWhile
import Mathlib.Tactic.Common

namespace LintBridge.Text

/-- A text that neither starts nor ends with a blank character. -/
structure Trimmed (cs : List Char) : Prop where
  head : ∀ c ∈ cs.head?, isBlank c = false
  last : ∀ c ∈ cs.getLast?, isBlank c = false

lemma dropWhile_blank {left cs : List Char} (hleft : ∀ c ∈ left, isBlank c = true)
    (hhead : ∀ c ∈ cs.head?, isBlank c = false) : (left ++ cs).dropWhile isBlank = cs := by
  rw [List.dropWhile_append_of_pos hleft]
  cases cs with
  | nil => rfl
  | cons c cs => rw [List.dropWhile_cons_of_neg (by simp [hhead c rfl])]

/-- Exactly the blank characters at both ends go away. -/
lemma trimChars_around {left cs right : List Char} (h : Trimmed cs)
    (hleft : ∀ c ∈ left, isBlank c = true) (hright : ∀ c ∈ right, isBlank c = true) :
    trimChars (left ++ (cs ++ right)) = cs := by
  rw [trimChars]
  cases cs with
  | nil =>
    have hall : ∀ c ∈ left ++ ([] ++ right), isBlank c = true := by
      intro c hc
      rcases List.mem_append.1 hc with hc | hc
      · exact hleft c hc
      · exact hright c hc
    rw [List.dropWhile_eq_nil_iff.2 hall]
    rfl
  | cons c cs =>
    have hhead : ∀ d ∈ (c :: cs ++ right).head?, isBlank d = false := fun d hd => h.head d hd
    have hlast : ∀ d ∈ (c :: cs).reverse.head?, isBlank d = false := by
      intro d hd
      rw [List.head?_reverse] at hd
      exact h.last d hd
    rw [dropWhile_blank hleft hhead, List.reverse_append,
      dropWhile_blank (by simpa using hright) hlast, List.reverse_reverse]

lemma trimmed_trimChars (cs : List Char) : Trimmed (trimChars cs) := by
  -- dropping at one end leaves the other end as it is, unless nothing is left
  have hdrop (l : List Char) : ∀ c ∈ (l.dropWhile isBlank).head?, isBlank c = false := by
    intro c hc
    have hne : l.dropWhile isBlank ≠ [] := by
      rintro hnil
      rw [hnil] at hc
      cases hc
    have hnot := List.head_dropWhile_not isBlank hne
    rw [List.head?_eq_some_head hne] at hc
    rwa [Option.mem_some_iff.1 hc] at hnot
  constructor
  · intro c hc
    rw [trimChars, List.head?_reverse] at hc
    have hsuffix := List.dropWhile_suffix isBlank (l := (cs.dropWhile isBlank).reverse)
    obtain ⟨dropped, hsplit⟩ := hsuffix
    refine hdrop cs c ?_
    have hlast : (cs.dropWhile isBlank).reverse.getLast? = some c := by
      rw [← hsplit, List.getLast?_append, hc]
      rfl
    rwa [List.getLast?_reverse] at hlast
  · intro c hc
    rw [trimChars, List.getLast?_reverse] at hc
    exact hdrop _ c hc

/-- What is left of the start of a text without blank characters at its ends, when blank characters
are taken off it: a start of the text, too. -/
lemma exists_trim_prefix {cs cut : List Char} (h : Trimmed cs) (hcut : cut <+: cs) :
    ∃ blanks, cut = trimChars cut ++ blanks := by
  have hhead : ∀ c ∈ cut.head?, isBlank c = false := by
    intro c hc
    obtain ⟨more, rfl⟩ := hcut
    refine h.head c ?_
    rw [List.head?_append, Option.mem_def.1 hc]
    rfl
  have hdrop : cut.dropWhile isBlank = cut := dropWhile_blank (List.forall_mem_nil _) hhead
  obtain ⟨blanks, hsplit⟩ := List.dropWhile_suffix isBlank (l := cut.reverse)
  refine ⟨blanks.reverse, ?_⟩
  rw [trimChars, hdrop, ← List.reverse_append, hsplit, List.reverse_reverse]

end LintBridge.Text
