/-
# Which path comes first

The order of paths, said without a comparison.  Two paths are read up to the first place where they
differ, and the one that ends there, or whose component comes before the other one, comes first.

* `Component.Before`, `Path.Before`: a component or a path comes before another.
* `Path.order_eq_lt_iff`: this is the order of paths.
* `Path.before_or_same`, `Path.Before.strict`, `Path.Before.trans`: it is total, and only spellings
  of one component list are ties.
-/
import LintBridge.Path.Order
import Mathlib.Tactic.Common

namespace LintBridge

namespace Component

/-- One component comes before another: the root before all others, then a `.`, then a `..`, then
the names in the order of their texts. -/
def Before : Component → Component → Prop
  | root, c => c ≠ root
  | here, c => c = up ∨ ∃ t, c = name t
  | up, c => ∃ t, c = name t
  | name s, c => ∃ t, c = name t ∧ s < t

lemma compare_eq_lt_iff {a b : Component} : compare a b = .lt ↔ a.Before b := by
  have hcompare : compare a b = (compare a.rank b.rank).then (compare a.label b.label) := rfl
  have htext (s t : String) : compare s t = .lt ↔ s < t := compareOfLessAndEq_eq_lt
  rw [hcompare, Ordering.then_eq_lt, Std.compare_eq_lt, Std.compare_eq_iff_eq, htext]
  cases a <;> cases b <;> simp [Before, rank, label]

/-- Lists of components are compared at the first place where they differ. -/
lemma compare_lists_eq_lt_iff {as bs : List Component} :
    compare as bs = .lt ↔ List.Lex Before as bs := by
  induction as generalizing bs with
  | nil => cases bs <;> simp
  | cons a as ih =>
    cases bs with
    | nil => simp
    | cons b bs =>
      rw [List.compare_cons_cons, Ordering.then_eq_lt, compare_eq_lt_iff, ih,
        Std.LawfulEqOrd.compare_eq_iff_eq, List.cons_lex_cons_iff]

end Component

namespace Path

variable {p q r : Path}

/-- One path comes before another: at the first place where they differ, it ends, or its component
comes before the other one. -/
def Before (p q : Path) : Prop := List.Lex Component.Before p.components q.components

/-- Paths are ordered component by component. -/
theorem order_eq_lt_iff : p.order q = .lt ↔ p.Before q := Component.compare_lists_eq_lt_iff

/-- Of two paths one comes before the other, unless they are spellings of one component list. -/
lemma before_or_same (p q : Path) : p.Before q ∨ p.Same q ∨ q.Before p := by
  cases h : p.order q with
  | lt => exact .inl (order_eq_lt_iff.1 h)
  | eq => exact .inr (.inl (order_eq_iff.1 h))
  | gt => exact .inr (.inr (order_eq_lt_iff.1 (order_gt_iff.1 h)))

lemma Before.strict (h : p.Before q) : ¬p.Same q ∧ ¬q.Before p := by
  have hlt := order_eq_lt_iff.2 h
  refine ⟨not_same_of_order_lt hlt, ?_⟩
  rw [← order_eq_lt_iff, ← order_gt_iff, hlt]
  simp

lemma Before.trans (h : p.Before q) (h' : q.Before r) : p.Before r :=
  order_eq_lt_iff.1 (order_trans (order_eq_lt_iff.2 h) (order_eq_lt_iff.2 h'))

end Path

end LintBridge
