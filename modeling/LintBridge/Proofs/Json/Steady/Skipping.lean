/-
# Passing over a value in a longer text

* `settled_skipValue`: passing over a value lasts if something is left behind it.
-/
import LintBridge.Proofs.Json.Steady.Scanning

namespace LintBridge.Json

open Leftover

/-- The turns in passing over a value. -/
abbrev SteadySkip (run : List Char → Except Fault (Turn Skipping Unit)) : Prop :=
  Steady (Turn.Shut False) run

lemma steady_afterValue (frames : List Frame) : SteadySkip fun s => .ok (afterValue frames s) := by
  refine ⟨fun s x hx _ more => ?_, fun x hx => ?_⟩
  · cases hx
    cases frames <;> rfl
  · cases hx
    cases frames <;> exact ⟨rfl, not_false⟩

lemma steady_skipStart (frames : List Frame) : SteadySkip (skipStart frames) := by
  refine ⟨fun s x hx hleft more => ?_, fun x hx => by cases hx⟩
  have hafter := steady_afterValue frames
  unfold skipStart at hx ⊢
  cases hs : skipSpaces s with
  | nil =>
    rw [hs] at hx
    cases hx
  | cons c s =>
    rw [hs] at hx
    rw [skipSpaces_append_cons hs]
    split at hx
    next => cases hx
    next heq =>
      cases heq
      exact ((closed_readLetters _ _).bind fun _ => hafter.lasting).lasting s x hx hleft more
    next heq =>
      cases heq
      exact ((closed_readLetters _ _).bind fun _ => hafter.lasting).lasting s x hx hleft more
    next heq =>
      cases heq
      exact ((closed_readLetters _ _).bind fun _ => hafter.lasting).lasting s x hx hleft more
    next heq =>
      cases heq
      exact (closed_skipString.bind fun _ => hafter.lasting).lasting s x hx hleft more
    next heq =>
      cases heq
      cases hx
      rfl
    next heq =>
      cases heq
      cases hx
      rfl
    next hn ht hf hquote hbracket hbrace heq =>
      cases heq
      split at hx
      next hc =>
        simp only [hc]
        exact (settled_skipNumber.bind fun _ => hafter).lasting (c :: s) x hx hleft more
      next => cases hx

/-- What comes after a key. -/
lemma steady_skipColon (frames : List Frame) : SteadySkip fun s =>
    match skipSpaces s with
    | [] => .error .endInObject
    | ':' :: rest => .ok (.again ⟨none, frames⟩ rest)
    | _ => .error .expectedColon := by
  refine ⟨fun s x hx hleft more => ?_, fun x hx => by cases hx⟩
  cases hs : skipSpaces s with
  | nil =>
    rw [hs] at hx
    cases hx
  | cons c s =>
    rw [hs] at hx
    rw [skipSpaces_append_cons hs]
    split at hx
    next => cases hx
    next heq =>
      cases heq
      cases hx
      rfl
    next => cases hx

lemma steady_skipKey (frames : List Frame) : SteadySkip (skipKey frames) := by
  refine ⟨fun s x hx hleft more => ?_, fun x hx => by cases hx⟩
  unfold skipKey at hx ⊢
  cases hs : skipSpaces s with
  | nil =>
    rw [hs] at hx
    cases hx
  | cons c s =>
    rw [hs] at hx
    rw [skipSpaces_append_cons hs]
    split at hx
    next => cases hx
    next heq =>
      cases heq
      exact (closed_skipString.bind fun _ => (steady_skipColon frames).lasting).lasting s x hx
        hleft more
    next => cases hx

lemma steady_skipNext (passed : Bool) (frame : Frame) (frames : List Frame) :
    SteadySkip (skipNext passed frame frames) := by
  refine ⟨fun s x hx hleft more => ?_, fun x hx => by cases frame <;> cases hx⟩
  have hafter := steady_afterValue frames
  unfold skipNext at hx ⊢
  cases hs : skipSpaces s with
  | nil =>
    rw [hs] at hx
    cases frame <;> cases hx
  | cons c s =>
    rw [hs] at hx
    rw [skipSpaces_append_cons hs]
    split at hx
    next => cases hx
    next => cases hx
    next heq =>
      cases heq
      exact hafter.lasting s x hx hleft more
    next heq =>
      cases heq
      exact hafter.lasting s x hx hleft more
    next hclose heq =>
      cases heq
      split at hx
      next hpassed =>
        split at hx
        next hcomma =>
          cases hx
          simp only [hpassed, hcomma]
          rfl
        next => cases hx
      next hpassed =>
        simp only [hpassed]
        exact (steady_skipStart (.array :: frames)).lasting (c :: s) x hx hleft more
    next hclose heq =>
      cases heq
      split at hx
      next hpassed =>
        split at hx
        next hcomma =>
          simp only [hpassed, hcomma]
          exact (steady_skipKey (.object :: frames)).lasting s x hx hleft more
        next => cases hx
      next hpassed =>
        simp only [hpassed]
        exact (steady_skipKey (.object :: frames)).lasting (c :: s) x hx hleft more

lemma steady_skipTurn (state : Skipping) : SteadySkip (skipTurn state) := by
  obtain ⟨passed, frames⟩ := state
  match passed, frames with
  | some passed, frame :: frames => exact steady_skipNext passed frame frames
  | none, frames => exact steady_skipStart frames
  | some _, [] => exact steady_skipStart []

lemma settled_skipValue : Settled skipValue := .repeatedly steady_skipTurn ⟨none, []⟩

end LintBridge.Json
