/-
# Working in turns

A scanner that works in turns is allowed as many as the text has characters, and one more.  That is
enough whenever every turn takes something off the text.

* `Turn.Leads`: one turn leads to another by turns that take something off the text.
* `repeatedly_of_leads`: where they lead is what the scanner comes to.
-/
import LintBridge.Json.Scan
import Mathlib.Tactic.Common

namespace LintBridge.Json

variable {σ τ : Type} {turn : σ → List Char → Except Fault (Turn σ τ)}

namespace Turn

/-- The text that is left after a turn. -/
def rest : Turn σ τ → List Char
  | again _ rest => rest
  | done _ rest => rest

@[simp] lemma rest_again (state : σ) (s : List Char) : (again state s : Turn σ τ).rest = s := rfl

@[simp] lemma rest_done (result : τ) (s : List Char) : (done result s : Turn σ τ).rest = s := rfl

/-- A turn leads to another one by turns that take something off the text. -/
inductive Leads (turn : σ → List Char → Except Fault (Turn σ τ)) : Turn σ τ → Turn σ τ → Prop
  | refl (t : Turn σ τ) : Leads turn t t
  | step {state : σ} {s : List Char} {t t' : Turn σ τ} (hturn : turn state s = .ok t)
      (hshorter : t.rest.length < s.length) (h : Leads turn t t') : Leads turn (again state s) t'

lemma Leads.trans {t t' t'' : Turn σ τ} (h : Leads turn t t') (h' : Leads turn t' t'') :
    Leads turn t t'' := by
  induction h with
  | refl t => exact h'
  | step hturn hshorter _ ih => exact .step hturn hshorter (ih h')

/-- One turn. -/
lemma Leads.single {state : σ} {s : List Char} {t : Turn σ τ} (hturn : turn state s = .ok t)
    (hshorter : t.rest.length < s.length) : Leads turn (again state s) t :=
  .step hturn hshorter (.refl t)

end Turn

/-- More turns than the text has characters suffice. -/
lemma takeTurns_of_leads {state : σ} {s : List Char} {result : τ} {rest : List Char}
    (h : Turn.Leads turn (.again state s) (.done result rest)) {budget : List Char}
    (hbudget : s.length < budget.length) :
    takeTurns turn budget state s = .ok (result, rest) := by
  -- on the turns, for any budget that is longer than the text that is left
  generalize hstart : Turn.again state s = start at h
  generalize hstop : Turn.done result rest = stop at h
  induction h generalizing state s budget with
  | refl t =>
    subst hstart
    cases hstop
  | @step state' s' t t' hturn hshorter h ih =>
    cases hstart
    subst hstop
    match budget, hbudget with
    | b :: budget, hbudget =>
      rw [takeTurns, hturn]
      cases t with
      | done result' rest' =>
        cases h
        rfl
      | again state' s' =>
        refine ih ?_ rfl rfl
        simp only [Turn.rest_again, List.length_cons] at hshorter hbudget
        omega

/-- Where turns lead that take something off the text is what the scanner comes to. -/
lemma repeatedly_of_leads {state : σ} {s : List Char} {result : τ} {rest : List Char}
    (h : Turn.Leads turn (.again state s) (.done result rest)) :
    repeatedly turn state s = .ok (result, rest) :=
  takeTurns_of_leads h (by simp)

end LintBridge.Json
