/-
# The order of paths

Paths are ordered by their component lists, not by their spelling: the root comes first, then a
leading `.`, then `..`, then names by code points, and a list comes before every list it starts.
So `/p/a` < `/p/a/b` < `/p/a-b`, although `-` comes before `/` as text.

* `Path.order`: the comparison.  It is a total order (`Path.order_trans`, `Path.order_swap`) whose
  ties are exactly the spellings of one component list (`Path.order_eq_iff`).
-/
import LintBridge.Path.Basic

namespace LintBridge

namespace Component

/-- The place of the kind of a component in the order. -/
def rank : Component → Nat
  | root => 0
  | here => 1
  | up => 2
  | name _ => 3

/-- What tells two components of one kind apart. -/
def label : Component → String
  | name s => s
  | _ => ""

instance : Ord Component where
  compare := compareLex (compareOn rank) (compareOn label)

instance : Std.TransOrd Component :=
  inferInstanceAs (Std.TransCmp (compareLex (compareOn rank) (compareOn label)))

theorem eq_of_rank_of_label {a b : Component} (hr : a.rank = b.rank) (hl : a.label = b.label) :
    a = b := by
  cases a <;> cases b <;> simp_all [rank, label]

instance : Std.LawfulEqOrd Component where
  eq_of_compare {a b} h := by
    have h' : (compare a.rank b.rank).then (compare a.label b.label) = .eq := h
    rw [Ordering.then_eq_eq] at h'
    exact eq_of_rank_of_label (Std.LawfulEqOrd.eq_of_compare h'.1)
      (Std.LawfulEqOrd.eq_of_compare h'.2)

end Component

namespace Path

/-- The order of two paths is the order of their component lists. -/
def order (a b : Path) : Ordering := compare a.components b.components

/-- Two paths are spellings of one component list. -/
def Same (a b : Path) : Prop := a.components = b.components

instance (a b : Path) : Decidable (Same a b) := inferInstanceAs (Decidable (_ = _))

@[simp] theorem Same.refl (a : Path) : Same a a := rfl

theorem Same.symm {a b : Path} (h : Same a b) : Same b a := Eq.symm h

theorem Same.trans {a b c : Path} (h : Same a b) (h' : Same b c) : Same a c := Eq.trans h h'

/-- Ties of the order are the spellings of one component list. -/
theorem order_eq_iff {a b : Path} : order a b = .eq ↔ Same a b :=
  Std.LawfulEqOrd.compare_eq_iff_eq

@[simp] theorem order_self (a : Path) : order a a = .eq := order_eq_iff.2 (.refl a)

theorem order_swap (a b : Path) : (order a b).swap = order b a := by
  unfold order
  exact Std.OrientedCmp.eq_swap.symm

theorem order_trans {a b c : Path} (h : order a b = .lt) (h' : order b c = .lt) :
    order a c = .lt := by
  unfold order at *
  exact Std.TransCmp.lt_trans h h'

theorem order_gt_iff {a b : Path} : order a b = .gt ↔ order b a = .lt := by
  rw [← order_swap b a]
  cases order b a <;> simp

theorem not_same_of_order_lt {a b : Path} (h : order a b = .lt) : ¬Same a b := fun hs => by
  simp [order_eq_iff.2 hs] at h

/-- The order does not see how its left side is spelled. -/
theorem Same.order_left {a b : Path} (h : Same a b) (c : Path) : order a c = order b c := by
  unfold order
  rw [h]

/-- The order does not see how its right side is spelled. -/
theorem Same.order_right {a b : Path} (h : Same a b) (c : Path) : order c a = order c b := by
  unfold order
  rw [h]

end Path

end LintBridge
