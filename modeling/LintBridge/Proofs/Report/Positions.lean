/-
# Positions of violations

The lint tool counts lines and columns from one, may leave them out, and may give a zero, which
stands for the first line or column as a one does.  The editor counts from zero.

* `toNat_zeroBased_add_one`: counted from one again, a number is as it was, and a zero is a one.
* `Position.isLE_zeroBased`: the order of two positions is kept, unless the line of the first one is
  zero.
* `Violation.start_eq`, `Violation.stop_eq`: the positions of a diagnostic are those of the
  violation, counted from zero.
* `Violation.range_ordered`: the law.
-/
import LintBridge.Report.Conversion
import Mathlib.Tactic.Common

namespace LintBridge

/-! ## Numbers -/

/-- Zero stays, and every other number becomes smaller by one. -/
lemma toNat_zeroBased (n : UInt32) : (zeroBased n).toNat = n.toNat - 1 := by
  rw [zeroBased]
  split
  next h => rw [h, UInt32.toNat_zero]
  next h =>
    have hpos : (1 : UInt32) ≤ n := by
      rw [UInt32.le_iff_toNat_le, UInt32.toNat_one, Nat.one_le_iff_ne_zero]
      exact fun hn => h (UInt32.toNat_inj.1 hn)
    rw [UInt32.toNat_sub_of_le _ _ hpos, UInt32.toNat_one]

/-- Counted from one again, a number is as it was, and a zero is a one. -/
lemma toNat_zeroBased_add_one (n : UInt32) : (zeroBased n).toNat + 1 = max 1 n.toNat := by
  rw [toNat_zeroBased]
  omega

lemma zeroBased_le {m n : UInt32} (h : m ≤ n) : zeroBased m ≤ zeroBased n := by
  rw [UInt32.le_iff_toNat_le] at h ⊢
  rw [toNat_zeroBased, toNat_zeroBased]
  omega

/-- Only zero and one are not told apart. -/
lemma zeroBased_lt {m n : UInt32} (hm : m ≠ 0) (h : m < n) : zeroBased m < zeroBased n := by
  have hpos : m.toNat ≠ 0 := fun hzero => hm (UInt32.toNat_inj.1 hzero)
  rw [UInt32.lt_iff_toNat_lt] at h ⊢
  rw [toNat_zeroBased, toNat_zeroBased]
  omega

/-! ## Positions -/

namespace Position

/-- A position that was counted from one, counted from zero. -/
def zeroBased (p : Position) : Position :=
  ⟨LintBridge.zeroBased p.line, LintBridge.zeroBased p.character⟩

/-- A position is not behind another one if its line comes first, or its character in the same line
does not come later. -/
lemma isLE_order_iff {a b : Position} :
    (a.order b).isLE = true ↔ a.line < b.line ∨ a.line = b.line ∧ a.character ≤ b.character := by
  rw [order, Ordering.isLE_then_iff_or, Std.compare_eq_lt, Std.compare_eq_iff_eq, Std.isLE_compare]

/-- The order of two positions is kept when they are counted from zero.  The line of the first one
must not be zero, or else it could become the line of the second one. -/
lemma isLE_zeroBased {a b : Position} (hline : a.line ≠ 0) (h : (a.order b).isLE = true) :
    (a.zeroBased.order b.zeroBased).isLE = true := by
  rw [isLE_order_iff] at h ⊢
  rcases h with hlt | ⟨heq, hle⟩
  · exact .inl (zeroBased_lt hline hlt)
  · exact .inr ⟨congrArg LintBridge.zeroBased heq, zeroBased_le hle⟩

end Position

/-! ## Ranges -/

namespace Violation

/-- Where the lint tool says that the violation starts, counted from one: a missing line or column
is the first one. -/
def givenStart (v : Violation) : Position := ⟨v.line.getD 1, v.column.getD 1⟩

/-- Where the lint tool says that the violation ends, counted from one: a missing line or column is
that of the start. -/
def givenStop (v : Violation) : Position :=
  ⟨v.endLine.getD v.givenStart.line, v.endColumn.getD v.givenStart.character⟩

lemma start_eq (v : Violation) : v.start = v.givenStart.zeroBased := rfl

lemma stop_eq (v : Violation) : v.stop = v.givenStop.zeroBased := by
  rw [stop, givenStop, Position.zeroBased, start_eq]
  cases v.endLine <;> cases v.endColumn <;> rfl

lemma givenStart_line_ne {v : Violation} (h : v.line ≠ some 0) : v.givenStart.line ≠ 0 := by
  rw [givenStart]
  cases hline : v.line with
  | none => exact show (1 : UInt32) ≠ 0 by decide
  | some n => exact fun hn => h (hline.trans (congrArg some hn))

/-- **Ranges stay ordered, and nothing else changes.**  If a violation with a line that is missing
or at least one does not end before it starts, then the range of its diagnostic does not either.  If
all four numbers are given and at least one, then they are those of the range, counted from one. -/
theorem range_ordered (v : Violation) (o : ConversionOptions) :
    let r := (v.toDiagnostic o).range
    (v.line ≠ some 0 → (v.givenStart.order v.givenStop).isLE = true →
      (r.start.order r.stop).isLE = true) ∧
    ∀ line column endLine endColumn : UInt32,
      v.line = some line → v.column = some column →
      v.endLine = some endLine → v.endColumn = some endColumn →
      1 ≤ line → 1 ≤ column → 1 ≤ endLine → 1 ≤ endColumn →
      r.start.line.toNat + 1 = line.toNat ∧ r.start.character.toNat + 1 = column.toNat ∧
      r.stop.line.toNat + 1 = endLine.toNat ∧ r.stop.character.toNat + 1 = endColumn.toNat := by
  intro r
  have hstart : r.start = v.givenStart.zeroBased := v.start_eq
  have hstop : r.stop = v.givenStop.zeroBased := v.stop_eq
  rw [hstart, hstop]
  refine ⟨fun hline => Position.isLE_zeroBased (givenStart_line_ne hline), ?_⟩
  intro line column endLine endColumn hline hcolumn hendLine hendColumn h₁ h₂ h₃ h₄
  have hback {n : UInt32} (h : 1 ≤ n) : (LintBridge.zeroBased n).toNat + 1 = n.toNat := by
    rw [toNat_zeroBased_add_one]
    exact Nat.max_eq_right (UInt32.le_iff_toNat_le.1 h)
  simp only [givenStart, givenStop, Position.zeroBased, hline, hcolumn, hendLine, hendColumn,
    Option.getD_some]
  exact ⟨hback h₁, hback h₂, hback h₃, hback h₄⟩

/-- Without a line, from the last column of all to the column zero of the next line; and from the
last column of the first line to the first column of the last line. -/
theorem range_ordered_at_bounds :
    let v : Violation := ⟨none, 2, "odd", none, some 4294967295, some 2, some 0⟩
    let r := (v.toDiagnostic {}).range
    let v' : Violation :=
      ⟨some "semi", 1, "odd", some 1, some 4294967295, some 4294967295, some 1⟩
    let r' := (v'.toDiagnostic {}).range
    (v.line ≠ some 0 ∧ (v.givenStart.order v.givenStop).isLE = true ∧
      (r.start.order r.stop).isLE = true) ∧
    (v'.line = some 1 ∧ v'.column = some 4294967295 ∧ v'.endLine = some 4294967295 ∧
      v'.endColumn = some 1 ∧ r'.start.line.toNat + 1 = 1 ∧
      r'.start.character.toNat + 1 = 4294967295 ∧ r'.stop.line.toNat + 1 = 4294967295 ∧
      r'.stop.character.toNat + 1 = 1) := by
  intro v r v' r'
  have hline : v.line ≠ some 0 := by decide +kernel
  have horder : (v.givenStart.order v.givenStop).isLE = true := by decide +kernel
  refine ⟨⟨hline, horder, (v.range_ordered {}).1 hline horder⟩, rfl, rfl, rfl, rfl, ?_⟩
  exact (v'.range_ordered {}).2 1 4294967295 4294967295 1 rfl rfl rfl rfl (by decide) (by decide)
    (by decide) (by decide)

/-- The line zero counts as the line one, so that the columns decide. -/
example :
    let v : Violation := ⟨none, 2, "odd", some 0, some 5, some 1, some 1⟩
    let r := (v.toDiagnostic {}).range
    (v.givenStart.order v.givenStop).isLE = true ∧ (r.start.order r.stop).isLE = false := by
  decide +kernel

end Violation

end LintBridge
