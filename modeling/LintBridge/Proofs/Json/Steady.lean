/-
# Scanning a longer text

A scanner works from left to right, so what it came to does not change when more text is added
behind what it has left, as long as it has left something: at the end of a text, it cannot be known
whether a number goes on.  A scanner that stops at a closing bracket or quote is not affected at
all.

* `Leftover`: results that come with the text that is left.
* `Steady`: a scanner comes to the same on a longer text if it left something or if it came to a
  result that is shut.
* `Steady.bind`: one scanner after another.
* `Steady.repeatedly`: a scanner that works in turns.
-/
import LintBridge.Json.Scan
import Mathlib.Data.List.TakeWhile
import Mathlib.Tactic.Common

namespace LintBridge.Json

/-- Results that come with the text that is left. -/
class Leftover (γ : Type) where
  /-- The text that is left. -/
  rest : γ → List Char
  /-- The same result with another text left. -/
  withRest : γ → List Char → γ
  withRest_rest (x : γ) : withRest x (rest x) = x

namespace Leftover

variable {α σ τ : Type}

instance : Leftover (List Char) := ⟨id, fun _ s => s, fun _ => rfl⟩

instance : Leftover (α × List Char) := ⟨Prod.snd, fun x s => (x.1, s), fun _ => rfl⟩

instance : Leftover (Turn σ τ) where
  rest
    | .again _ s => s
    | .done _ s => s
  withRest
    | .again state _, s => .again state s
    | .done result _, s => .done result s
  withRest_rest x := by cases x <;> rfl

end Leftover

open Leftover

variable {α β γ γ' σ τ : Type} [Leftover γ] [Leftover γ']

/-- What a scanner came to stays the same when a text is added behind what it left, if it left
something, or if its result is shut. -/
def Lasting (shut : γ → Prop) (run : List Char → Except Fault γ) : Prop :=
  ∀ s x, run s = .ok x → (rest x ≠ [] ∨ shut x) →
    ∀ more, run (s ++ more) = .ok (withRest x (rest x ++ more))

/-- A scanner that lasts, and for which there is nothing to shut in an empty text. -/
structure Steady (shut : γ → Prop) (run : List Char → Except Fault γ) : Prop where
  lasting : Lasting shut run
  nil : ∀ x, run [] = .ok x → rest x = [] ∧ ¬shut x

/-- A scanner that lasts if it left something. -/
abbrev Settled (run : List Char → Except Fault γ) : Prop := Steady (fun _ => False) run

/-- A scanner that lasts. -/
abbrev Closed (run : List Char → Except Fault γ) : Prop := Steady (fun _ => True) run

variable {shut : γ → Prop} {shut' : γ' → Prop} {run : List Char → Except Fault γ}
  {next : γ → Except Fault γ'}

lemma lasting_error (f : List Char → Fault) : Lasting shut fun s => .error (f s) := by
  intro s x h
  cases h

lemma steady_error (f : List Char → Fault) : Steady shut fun s => .error (f s) :=
  ⟨lasting_error f, fun x h => by cases h⟩

/-- A result without a look at the text. -/
lemma lasting_ok (shut : α × List Char → Prop) (a : α) : Lasting shut fun s => .ok (a, s) := by
  intro s x h _ more
  cases h
  rfl

lemma settled_ok (a : α) : Settled fun s => .ok (a, s) := by
  refine ⟨lasting_ok _ a, fun x h => ?_⟩
  cases h
  exact ⟨rfl, not_false⟩

lemma Closed.nil_ne (h : Closed run) (x : γ) : run [] ≠ .ok x :=
  fun hrun => (h.nil x hrun).2 trivial

lemma Closed.settled (h : Closed run) : Settled run :=
  ⟨fun s x hrun _ => h.lasting s x hrun (.inr trivial), fun x hrun => absurd hrun (h.nil_ne x)⟩

lemma exists_of_bind {α β : Type} {x : Except Fault α} {f : α → Except Fault β} {y : β}
    (h : x >>= f = .ok y) : ∃ a, x = .ok a ∧ f a = .ok y := by
  cases x with
  | error e => cases h
  | ok a => exact ⟨a, rfl, h⟩

/-- One scanner after another.  Where the first one left nothing, the second one must not shut
anything, unless the first one did. -/
lemma Steady.bind (h : Steady shut run)
    (hnext : ∀ x, Lasting shut' fun s => next (withRest x s))
    (hnil : ∀ x, ¬shut x → ∀ y, next (withRest x []) = .ok y → rest y = [] ∧ ¬shut' y) :
    Steady shut' fun s => run s >>= next := by
  constructor
  · intro s y hy hleft more
    obtain ⟨x, hx, hxy⟩ := exists_of_bind hy
    have hnext_x : next (withRest x (rest x)) = .ok y := by rwa [withRest_rest]
    have hx_left : rest x ≠ [] ∨ shut x := by
      by_contra hnot
      obtain ⟨hrest, hshut⟩ := not_or.1 hnot
      rw [not_not.1 hrest] at hnext_x
      obtain ⟨hyrest, hyshut⟩ := hnil x hshut y hnext_x
      exact hleft.elim (absurd hyrest) hyshut
    show (run (s ++ more) >>= next) = _
    rw [h.lasting s x hx hx_left more]
    exact hnext x _ y hnext_x hleft more
  · intro y hy
    obtain ⟨x, hx, hxy⟩ := exists_of_bind hy
    obtain ⟨hrest, hshut⟩ := h.nil x hx
    refine hnil x hshut y ?_
    rwa [← hrest, withRest_rest]

/-- After a scanner that lasts, any scanner that lasts. -/
lemma Closed.bind (h : Closed run) (hnext : ∀ x, Lasting shut' fun s => next (withRest x s)) :
    Steady shut' fun s => run s >>= next :=
  Steady.bind h hnext fun _ hshut => absurd trivial hshut

/-- After a scanner that lasts if it left something, any scanner that does not shut anything in an
empty text. -/
lemma Settled.bind (h : Settled run) (hnext : ∀ x, Steady shut' fun s => next (withRest x s)) :
    Steady shut' fun s => run s >>= next :=
  Steady.bind h (fun x => (hnext x).lasting) fun x _ => (hnext x).nil

/-! ## White space and characters -/

lemma dropWhile_append_more {p : Char → Bool} {s : List Char} (h : s.dropWhile p ≠ [])
    (more : List Char) : (s ++ more).dropWhile p = s.dropWhile p ++ more := by
  rw [List.dropWhile_append, if_neg]
  simpa using h

lemma takeWhile_append_more {p : Char → Bool} {s : List Char} (h : s.dropWhile p ≠ [])
    (more : List Char) : (s ++ more).takeWhile p = s.takeWhile p := by
  have hsplit : s.takeWhile p ++ s.dropWhile p = s := List.takeWhile_append_dropWhile
  have hlength := congrArg List.length hsplit
  have hpos := List.length_pos_iff.2 h
  rw [List.length_append] at hlength
  rw [List.takeWhile_append, if_neg (by omega)]

lemma skipSpaces_append_cons {s s' : List Char} {c : Char} (h : skipSpaces s = c :: s')
    (more : List Char) : skipSpaces (s ++ more) = c :: (s' ++ more) := by
  have hne : s.dropWhile isSpace ≠ [] := fun hnil => by cases hnil.symm.trans h
  have happend : skipSpaces (s ++ more) = skipSpaces s ++ more := dropWhile_append_more hne more
  rw [happend, h, List.cons_append]

/-- A scanner that refuses the empty text, by the first character. -/
lemma Steady.of_cons (hnil : ∀ x, run [] ≠ .ok x)
    (hcons : ∀ c, Lasting shut fun s => run (c :: s)) : Steady shut run := by
  refine ⟨fun s x hx hleft more => ?_, fun x hx => absurd hx (hnil x)⟩
  cases s with
  | nil => exact absurd hx (hnil x)
  | cons c s => exact hcons c s x hx hleft more

/-! ## Working in turns -/

/-- A turn shuts what a scanner is about if it is the last one and the scanner lasts. -/
def Turn.Shut (last : Prop) : Turn σ τ → Prop
  | again _ _ => False
  | done _ _ => last

section Turns

variable {last : Prop} {turn : σ → List Char → Except Fault (Turn σ τ)}

lemma takeTurns_nil (h : ∀ state, Steady (Turn.Shut last) (turn state)) {budget : List Char}
    {state : σ} {x : τ × List Char} (hx : takeTurns turn budget state [] = .ok x) :
    rest x = [] ∧ ¬last := by
  induction budget generalizing state with
  | nil => cases hx
  | cons b budget ih =>
    rw [takeTurns] at hx
    cases hturn : turn state [] with
    | error e =>
      rw [hturn] at hx
      cases hx
    | ok t =>
      obtain ⟨hrest, hshut⟩ := (h state).nil t hturn
      rw [hturn] at hx
      cases t with
      | done result s =>
        cases hx
        exact ⟨hrest, hshut⟩
      | again state' s =>
        obtain rfl : s = [] := hrest
        exact ih hx

/-- More turns and a longer text lead to the same result. -/
lemma takeTurns_append (h : ∀ state, Steady (Turn.Shut last) (turn state)) {budget s : List Char}
    {state : σ} {x : τ × List Char} (hx : takeTurns turn budget state s = .ok x)
    (hleft : rest x ≠ [] ∨ last) (more more' : List Char) :
    takeTurns turn (budget ++ more') state (s ++ more) = .ok (withRest x (rest x ++ more)) := by
  induction budget generalizing state s with
  | nil => cases hx
  | cons b budget ih =>
    rw [takeTurns] at hx
    rw [List.cons_append, takeTurns]
    cases hturn : turn state s with
    | error e =>
      rw [hturn] at hx
      cases hx
    | ok t =>
      rw [hturn] at hx
      cases t with
      | done result s' =>
        cases hx
        rw [(h state).lasting s _ hturn hleft more]
        rfl
      | again state' s' =>
        have hs' : s' ≠ [] := by
          rintro rfl
          obtain ⟨hrest, hlast⟩ := takeTurns_nil h hx
          exact hleft.elim (absurd hrest) hlast
        rw [(h state).lasting s _ hturn (.inl hs') more]
        exact ih hx

/-- A scanner that works in turns. -/
lemma Steady.repeatedly (h : ∀ state, Steady (Turn.Shut last) (turn state)) (start : σ) :
    Steady (fun _ => last) (repeatedly turn start) := by
  refine ⟨fun s x hx hleft more => ?_, fun x hx => takeTurns_nil h hx⟩
  exact takeTurns_append h hx hleft more more

end Turns

end LintBridge.Json
