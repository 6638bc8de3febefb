/-
# Literals, strings and numbers in a longer text

A literal ends with its last letter and a string with its closing quote.  A number may go on, so it
lasts only if something that does not belong to it follows.

* `closed_readLetters`, `closed_stringBody`, `closed_skipString`: literals and strings.
* `settled_readNumber`, `settled_skipNumber`: numbers.
-/
import LintBridge.Json.Skip
import LintBridge.Proofs.Json.Steady

namespace LintBridge.Json

open Leftover

/-! ## Literals -/

lemma lasting_readLetters (ls : List Char) : Lasting (fun _ => True) (readLetters ls) := by
  intro s x hx hleft more
  induction ls generalizing s with
  | nil =>
    cases hx
    rfl
  | cons l ls ih =>
    cases s with
    | nil => cases hx
    | cons c s =>
      simp only [readLetters, List.cons_append] at hx ⊢
      split at hx
      next hc =>
        rw [if_pos hc]
        exact ih s hx
      next => cases hx

lemma closed_readLetters (l : Char) (ls : List Char) : Closed (readLetters (l :: ls)) :=
  ⟨lasting_readLetters (l :: ls), fun x hx => by cases hx⟩

/-! ## Strings -/

lemma closed_readHex4 : Closed readHex4 := by
  refine ⟨fun s x hx _ more => ?_, fun x hx => by cases hx⟩
  match s with
  | a :: b :: c :: d :: rest =>
    simp only [readHex4, List.cons_append] at hx ⊢
    split at hx
    next hvalue =>
      cases hx
      rfl
    next => cases hx
  | [] => cases hx
  | [_] | [_, _] | [_, _, _] =>
    simp only [readHex4] at hx
    split at hx <;> cases hx

lemma closed_readUnicodeEscape : Closed readUnicodeEscape := by
  refine closed_readHex4.bind fun x s y hy hleft more => ?_
  obtain ⟨n, _⟩ := x
  dsimp only [withRest] at hy ⊢
  split at hy
  next => cases hy
  next hlow =>
    rw [if_neg hlow]
    split at hy
    next hhigh =>
      rw [if_pos hhigh]
      split at hy
      next => cases hy
      next => cases hy
      next rest =>
        -- the other half of a pair
        refine @Steady.lasting _ _ (fun _ => True) _ (closed_readHex4.bind ?_) rest y hy hleft more
        intro x s y hy hleft more
        obtain ⟨low, _⟩ := x
        dsimp only [withRest] at hy ⊢
        split at hy
        next hpair =>
          rw [if_pos hpair]
          exact lasting_ok (fun _ => True) _ s y hy hleft more
        next => cases hy
      next => cases hy
    next hhigh =>
      rw [if_neg hhigh]
      exact lasting_ok (fun _ => True) _ s y hy hleft more

lemma closed_readEscape : Closed readEscape := by
  refine ⟨fun s x hx hleft more => ?_, fun x hx => by cases hx⟩
  unfold readEscape at hx
  split at hx
  next => cases hx
  next rest => exact closed_readUnicodeEscape.lasting rest x hx hleft more
  next c rest _ =>
    split at hx
    next hescape =>
      cases hx
      simp [readEscape, hescape, withRest, Leftover.rest]
    next => cases hx

lemma steady_stringTurn (read : List Char) : Steady (Turn.Shut True) (stringTurn read) := by
  refine ⟨fun s x hx hleft more => ?_, fun x hx => by cases hx⟩
  unfold stringTurn at hx
  split at hx
  next => cases hx
  next rest =>
    cases hx
    rfl
  next rest =>
    split at hx
    next => cases hx
    next hescape =>
      cases hx
      have hmore := closed_readEscape.lasting _ _ hescape (.inr trivial) more
      simp [stringTurn, hmore, withRest, Leftover.rest]
  next c rest hquote hslash =>
    split at hx
    next => cases hx
    next hc =>
      cases hx
      simp [stringTurn, hc, withRest, Leftover.rest]

/-- A string lasts, since it ends with a quote. -/
lemma closed_stringBody : Closed stringBody := .repeatedly steady_stringTurn []

lemma closed_skipEscape : Closed skipEscape := by
  refine ⟨fun s x hx hleft more => ?_, fun x hx => by cases hx⟩
  unfold skipEscape at hx
  split at hx
  next => cases hx
  next rest =>
    split at hx
    next => cases hx
    next hhex =>
      cases hx
      have hmore := closed_readHex4.lasting _ _ hhex (.inr trivial) more
      simp [skipEscape, hmore, withRest, Leftover.rest]
  next c rest _ =>
    split at hx
    next hescape =>
      cases hx
      simp [skipEscape, hescape, withRest, Leftover.rest]
    next => cases hx

lemma steady_skipStringTurn (state : Unit) :
    Steady (Turn.Shut True) (skipStringTurn state) := by
  refine ⟨fun s x hx hleft more => ?_, fun x hx => by cases hx⟩
  unfold skipStringTurn at hx
  split at hx
  next => cases hx
  next rest =>
    cases hx
    rfl
  next rest =>
    split at hx
    next => cases hx
    next hescape =>
      cases hx
      have hmore := closed_skipEscape.lasting _ _ hescape (.inr trivial) more
      simp [skipStringTurn, hmore, withRest, Leftover.rest]
  next c rest hquote hslash =>
    split at hx
    next => cases hx
    next hc =>
      cases hx
      simp [skipStringTurn, hc, withRest, Leftover.rest]

lemma closed_skipString : Closed skipString := .repeatedly steady_skipStringTurn ()

/-! ## Numbers -/

lemma settled_readWhole : Settled readWhole := by
  refine ⟨fun s x hx hleft more => ?_, fun x hx => by cases hx⟩
  have hrest : rest x ≠ [] := hleft.resolve_right not_false
  unfold readWhole at hx
  split at hx
  next => cases hx
  next s =>
    -- a zero stands alone, which needs a look at what follows
    split at hx
    next d s =>
      split at hx
      next => cases hx
      next hd =>
        cases hx
        simp [readWhole, hd, withRest, Leftover.rest]
    next =>
      cases hx
      exact absurd rfl hrest
  next c s _ =>
    split at hx
    next hc =>
      cases hx
      have hdrop : s.dropWhile isDigit ≠ [] := hrest
      simp [readWhole, hc, takeWhile_append_more hdrop, dropWhile_append_more hdrop, withRest,
        Leftover.rest]
    next => cases hx

lemma settled_readDigits : Settled readDigits := by
  refine ⟨fun s x hx hleft more => ?_, fun x hx => by cases hx⟩
  have hrest : rest x ≠ [] := hleft.resolve_right not_false
  unfold readDigits at hx
  split at hx
  next => cases hx
  next ds _ =>
    cases hx
    have hdrop : s.dropWhile isDigit ≠ [] := hrest
    simp [readDigits, takeWhile_append_more hdrop, dropWhile_append_more hdrop, withRest,
      Leftover.rest]

lemma settled_readFraction : Settled readFraction := by
  refine ⟨fun s x hx hleft more => ?_, fun x hx => ?_⟩
  · unfold readFraction at hx
    split at hx
    next s =>
      have hdigits : Settled fun s => readDigits s >>= fun x => .ok (some x.1, x.2) :=
        settled_readDigits.bind fun x => settled_ok (some x.1)
      exact hdigits.lasting s x hx hleft more
    next hpoint =>
      cases hx
      cases s with
      | nil => exact absurd rfl (hleft.resolve_right not_false)
      | cons c s =>
        have hc : c ≠ '.' := fun hc => hpoint s (by rw [hc])
        simp [readFraction, hc, withRest, Leftover.rest]
  · cases hx
    exact ⟨rfl, not_false⟩

lemma settled_readExponent : Settled readExponent := by
  refine ⟨fun s x hx hleft more => ?_, fun x hx => ?_⟩
  · cases s with
    | nil =>
      cases hx
      exact absurd rfl (hleft.resolve_right not_false)
    | cons c s =>
      simp only [readExponent, List.cons_append] at hx ⊢
      split at hx
      next he =>
        rw [if_pos he]
        have hdigits (negative : Bool) :
            Settled fun s => readDigits s >>= fun x => .ok (some (negative, x.1), x.2) :=
          settled_readDigits.bind fun x => settled_ok (some (negative, x.1))
        cases s with
        | nil => cases hx
        | cons d s =>
          by_cases hminus : d = '-'
          · subst hminus
            exact (hdigits true).lasting s x hx hleft more
          by_cases hplus : d = '+'
          · subst hplus
            exact (hdigits false).lasting s x hx hleft more
          · simp only [List.cons_append, List.cons.injEq, hminus, hplus, false_and, imp_false,
              not_false_eq_true, implies_true] at hx ⊢
            exact (hdigits false).lasting (d :: s) x hx hleft more
      next he =>
        cases hx
        rw [if_neg he]
        rfl
  · cases hx
    exact ⟨rfl, not_false⟩

/-- The parts of a numeral after its sign. -/
lemma settled_parts (negative : Bool) : Settled fun s : List Char =>
    readWhole s >>= fun whole => readFraction whole.2 >>= fun fraction =>
      readExponent fraction.2 >>= fun exponent =>
        .ok ((⟨negative, whole.1, fraction.1, exponent.1⟩ : Numeral), exponent.2) := by
  have hexponent (whole : List Char) (fraction : Option (List Char)) : Settled fun s =>
      readExponent s >>= fun exponent =>
        .ok ((⟨negative, whole, fraction, exponent.1⟩ : Numeral), exponent.2) :=
    settled_readExponent.bind fun exponent =>
      settled_ok (⟨negative, whole, fraction, exponent.1⟩ : Numeral)
  have hfraction (whole : List Char) : Settled fun s =>
      readFraction s >>= fun fraction => readExponent fraction.2 >>= fun exponent =>
        .ok ((⟨negative, whole, fraction.1, exponent.1⟩ : Numeral), exponent.2) :=
    settled_readFraction.bind fun fraction => hexponent whole fraction.1
  exact settled_readWhole.bind fun whole => hfraction whole.1

lemma settled_readNumeral : Settled readNumeral := by
  refine .of_cons (fun x hx => by cases hx) fun c s x hx hleft more => ?_
  by_cases hminus : c = '-'
  · subst hminus
    exact (settled_parts true).lasting s x hx hleft more
  · simp only [readNumeral, List.cons.injEq, hminus, false_and, imp_false, not_false_eq_true,
      implies_true] at hx ⊢
    exact (settled_parts false).lasting (c :: s) x hx hleft more

lemma settled_readNumber : Settled readNumber := by
  refine settled_readNumeral.bind fun x => ?_
  cases hvalue : x.1.number? with
  | none => simpa [withRest, hvalue] using steady_error fun _ => Fault.numberTooLarge
  | some n => simpa [withRest, hvalue] using settled_ok n

lemma settled_skipNumber : Settled skipNumber := by
  refine ⟨fun s x hx hleft more => ?_, fun x hx => by cases hx⟩
  unfold skipNumber at hx
  split at hx
  next hnumeral =>
    cases hx
    have hmore := settled_readNumeral.lasting _ _ hnumeral hleft more
    simp [skipNumber, hmore, withRest, Leftover.rest]
  next => cases hx

end LintBridge.Json
