/-
# Values of a known kind in a longer text

A list or a record ends with its closing bracket, so it is read from a longer text as well.

* `closed_readList`, `closed_readRecord`: lists and records, if their items and members last.
* `settled_readOption`, `settled_readBelow`: values that may end with the text.
* `Closed.isSpace_of_readAll`: between the ends of two whole texts that start alike, there is only
  white space.
-/
import LintBridge.Json.Typed
import LintBridge.Proofs.Json.Steady.Skipping

namespace LintBridge.Json

open Leftover

variable {α β δ σ : Type}

/-! ## Strings, numbers and missing values -/

lemma closed_readStringAs (want : String) : Closed (readStringAs want) := by
  refine ⟨fun s x hx hleft more => ?_, fun x hx => by cases hx⟩
  unfold readStringAs at hx ⊢
  split at hx
  next s' hs =>
    rw [skipSpaces_append_cons hs]
    exact closed_stringBody.lasting s' x hx hleft more
  next => cases hx

lemma settled_readBelow (bound : Nat) (want : String) : Settled (readBelow bound want) := by
  refine ⟨fun s x hx hleft more => ?_, fun x hx => by cases hx⟩
  unfold readBelow at hx ⊢
  split at hx
  next c s' hs =>
    rw [skipSpaces_append_cons hs]
    split at hx
    next hc =>
      simp only [hc, if_true]
      refine @Steady.lasting _ _ (fun _ => False) _ (settled_readNumber.bind ?_) (c :: s') x hx
        hleft more
      rintro ⟨n | n | n, _⟩
      · -- only a natural number is kept, if it is small enough
        by_cases hn : n < bound
        · simpa [withRest, hn] using settled_ok n
        · simpa [withRest, hn] using steady_error fun _ => Fault.outOfRange (.natural n) want
      · exact steady_error _
      · exact steady_error _
    next => cases hx
  next => cases hx

lemma settled_readUInt8 : Settled readUInt8 :=
  (settled_readBelow _ _).bind fun x => settled_ok (UInt8.ofNat x.1)

lemma settled_readUInt32 : Settled readUInt32 :=
  (settled_readBelow _ _).bind fun x => settled_ok (UInt32.ofNat x.1)

lemma settled_readOption {item : Reader α} (h : Settled item) : Settled (readOption item) := by
  have hsome : Settled fun s => item s >>= fun x => .ok (some x.1, x.2) :=
    h.bind fun x => settled_ok (some x.1)
  refine ⟨fun s x hx hleft more => ?_, fun x hx => hsome.nil x hx⟩
  unfold readOption at hx ⊢
  cases hs : skipSpaces s with
  | nil =>
    rw [hs] at hx
    exact absurd (hsome.nil x hx).1 (hleft.resolve_right not_false)
  | cons c s' =>
    rw [hs] at hx
    rw [skipSpaces_append_cons hs]
    split at hx
    next heq =>
      cases heq
      have hnull : Closed fun s => readLetters ['u', 'l', 'l'] s >>= fun rest =>
          pure ((none : Option α), rest) :=
        (closed_readLetters _ _).bind fun _ => lasting_ok _ none
      exact hnull.lasting s' x hx (.inr trivial) more
    next hn =>
      have hc : c ≠ 'n' := fun hc => hn s' (by rw [hc])
      simp only [List.cons.injEq, hc, false_and, imp_false, not_false_eq_true, implies_true]
      exact hsome.lasting (c :: s') x hx hleft more

/-! ## Lists -/

/-- What comes after a comma between items. -/
lemma closed_comma : Closed fun s : List Char =>
    match skipSpaces s with
    | [] => .error .endInValue
    | ']' :: _ => .error .trailingComma
    | rest => .ok (true, rest) := by
  refine ⟨fun s x hx hleft more => ?_, fun x hx => by cases hx⟩
  cases hs : skipSpaces s with
  | nil =>
    rw [hs] at hx
    cases hx
  | cons c s' =>
    rw [hs] at hx
    rw [skipSpaces_append_cons hs]
    split at hx
    next => cases hx
    next => cases hx
    next hbracket =>
      cases hx
      have hc : c ≠ ']' := fun hc => hbracket s' (by rw [hc])
      simp [hc, withRest, Leftover.rest]

lemma closed_nextItem (first : Bool) : Closed (nextItem first) := by
  refine ⟨fun s x hx hleft more => ?_, fun x hx => by cases hx⟩
  unfold nextItem at hx ⊢
  split at hx
  next => cases hx
  next s' hs =>
    rw [skipSpaces_append_cons hs]
    cases hx
    rfl
  next c s' hclose hs =>
    rw [skipSpaces_append_cons hs]
    split at hx
    next hfirst =>
      cases hx
      simp only [hfirst]
      rfl
    next hfirst =>
      split at hx
      next hcomma =>
        simp only [hfirst, hcomma]
        exact closed_comma.lasting s' x hx hleft more
      next => cases hx

lemma steady_listTurn {item : Reader α} (h : Settled item) (state : Bool × List α) :
    Steady (Turn.Shut True) (listTurn item state) := by
  refine (closed_nextItem state.1).bind ?_
  rintro ⟨_ | _, _⟩
  · intro s x hx _ more
    cases hx
    rfl
  · refine Steady.lasting (h.bind fun x => ?_)
    refine ⟨fun s x hx _ more => ?_, fun x hx => ?_⟩
    · cases hx
      rfl
    · cases hx
      exact ⟨rfl, not_false⟩

lemma closed_readList {item : Reader α} (h : Settled item) : Closed (readList item) := by
  refine ⟨fun s x hx hleft more => ?_, fun x hx => by cases hx⟩
  unfold readList at hx ⊢
  split at hx
  next s' hs =>
    rw [skipSpaces_append_cons hs]
    have hbody : Closed (listBody item) := .repeatedly (steady_listTurn h) (true, [])
    exact hbody.lasting s' x hx hleft more
  next => cases hx

/-! ## Records -/

lemma closed_key : Closed fun s => stringBody s >>= fun x => .ok (some x.1, x.2) :=
  closed_stringBody.bind fun x => lasting_ok _ (some x.1)

/-- What comes after a comma between members. -/
lemma closed_keyAfterComma : Closed fun s : List Char =>
    match skipSpaces s with
    | [] => .error .endInValue
    | '"' :: rest => stringBody rest >>= fun x => .ok (some x.1, x.2)
    | '}' :: _ => .error .trailingComma
    | _ => .error .keyNotString := by
  refine ⟨fun s x hx hleft more => ?_, fun x hx => by cases hx⟩
  cases hs : skipSpaces s with
  | nil =>
    rw [hs] at hx
    cases hx
  | cons c s' =>
    rw [hs] at hx
    rw [skipSpaces_append_cons hs]
    split at hx
    next => cases hx
    next heq =>
      cases heq
      exact closed_key.lasting s' x hx hleft more
    next => cases hx
    next => cases hx

lemma closed_nextKey (first : Bool) : Closed (nextKey first) := by
  refine ⟨fun s x hx hleft more => ?_, fun x hx => by cases hx⟩
  unfold nextKey at hx ⊢
  dsimp only at hx ⊢
  split at hx
  next => cases hx
  next s' hs =>
    rw [skipSpaces_append_cons hs]
    cases hx
    rfl
  next c s' hclose hs =>
    rw [skipSpaces_append_cons hs]
    split at hx
    next hfirst =>
      split at hx
      next hquote =>
        simp only [hfirst, hquote]
        exact closed_key.lasting s' x hx hleft more
      next => cases hx
    next hfirst =>
      split at hx
      next hcomma =>
        simp only [hfirst, hcomma]
        exact closed_keyAfterComma.lasting s' x hx hleft more
      next => cases hx

lemma closed_readColon : Closed readColon := by
  refine ⟨fun s x hx hleft more => ?_, fun x hx => by cases hx⟩
  unfold readColon at hx ⊢
  split at hx
  next => cases hx
  next s' hs =>
    rw [skipSpaces_append_cons hs]
    cases hx
    rfl
  next => cases hx

lemma steady_memberTurn {member : String → σ → Reader σ} (h : ∀ k draft, Settled (member k draft))
    (state : Bool × σ) : Steady (Turn.Shut True) (memberTurn member state) := by
  refine (closed_nextKey state.1).bind ?_
  rintro ⟨_ | k, _⟩
  · intro s x hx _ more
    cases hx
    rfl
  · refine Steady.lasting ((h k state.2).bind fun x => ?_)
    refine ⟨fun s x hx _ more => ?_, fun x hx => ?_⟩
    · cases hx
      rfl
    · cases hx
      exact ⟨rfl, not_false⟩

lemma closed_objectBody {member : String → σ → Reader σ} (h : ∀ k draft, Settled (member k draft))
    (start : σ) : Closed (objectBody member start) :=
  .repeatedly (steady_memberTurn h) (true, start)

/-- The members of a record last. -/
abbrev Record.Settled (r : Record δ α) : Prop :=
  ∀ f ∈ r.fields, ∀ draft, Json.Settled (f.read draft)

lemma settled_field {name : String} {get : δ → Option β} {set : δ → β → δ} {item : Reader β}
    (h : Settled item) (draft : δ) : Settled ((Field.of name get set item).read draft) :=
  h.bind fun x => settled_ok (set draft x.1)

lemma settled_member {r : Record δ α} (h : r.Settled) (k : String) (draft : δ) :
    Settled (r.member k draft) := by
  unfold Record.member
  cases hfind : r.fields.find? fun f => f.name = k with
  | none =>
    have hskip : Settled fun s => skipValue s >>= fun x => .ok (draft, x.2) :=
      settled_skipValue.bind fun _ => settled_ok draft
    exact closed_readColon.settled.bind fun _ => hskip
  | some f =>
    have hread : Settled fun s => readColon s >>= f.read draft :=
      closed_readColon.settled.bind fun _ => h f (List.mem_of_find?_eq_some hfind) draft
    cases hfilled : f.filled draft with
    | true => simpa [hfilled] using steady_error fun _ => Fault.duplicateMember k
    | false => simpa [hfilled] using hread

lemma closed_ofObject {r : Record δ α} (h : r.Settled) : Closed r.ofObject := by
  refine (closed_objectBody (settled_member h) r.blank).bind fun x => ?_
  cases hcomplete : r.complete x.1 with
  | ok a => simpa [withRest, hcomplete] using lasting_ok _ a
  | error name => simpa [withRest, hcomplete] using lasting_error fun _ => Fault.missingMember name

lemma steady_readItems {fields : List (Field δ)} (h : ∀ f ∈ fields, ∀ draft, Settled (f.read draft))
    (first : Bool) (draft : δ) :
    Steady (fun x => x.1.1 = true) (readItems first draft fields) := by
  induction fields generalizing first draft with
  | nil =>
    refine ⟨lasting_ok _ (false, draft), fun x hx => ?_⟩
    cases hx
    exact ⟨rfl, Bool.false_ne_true⟩
  | cons f fields ih =>
    have hrest := fun first draft =>
      ih (fun f hf => h f (List.mem_cons_of_mem _ hf)) first draft
    refine (closed_nextItem first).bind ?_
    rintro ⟨_ | _, _⟩
    · exact lasting_ok _ (true, draft)
    · exact ((h f List.mem_cons_self draft).bind fun x => hrest false x.1).lasting

lemma closed_endArray : Closed endArray := by
  refine ⟨fun s x hx hleft more => ?_, fun x hx => by cases hx⟩
  unfold endArray at hx ⊢
  split at hx
  next => cases hx
  next s' hs =>
    rw [skipSpaces_append_cons hs]
    cases hx
    rfl
  next => split at hx <;> cases hx
  next => cases hx

lemma closed_ofArray {r : Record δ α} (h : r.Settled) : Closed r.ofArray := by
  have hend (a : α) : Closed fun s => endArray s >>= fun rest => .ok (a, rest) :=
    closed_endArray.bind fun _ => lasting_ok _ a
  refine (steady_readItems h true r.blank).bind ?_ ?_
  · rintro ⟨⟨closed, draft⟩, _⟩
    cases hcomplete : r.complete draft with
    | error name =>
      simpa [withRest, hcomplete] using lasting_error fun _ => Fault.wrongLength _ _
    | ok a =>
      cases closed with
      | true => simpa [withRest, hcomplete] using lasting_ok _ a
      | false => simpa [withRest, hcomplete] using (hend a).lasting
  · rintro ⟨⟨closed, draft⟩, _⟩ hopen x hx
    obtain rfl : closed = false := Bool.eq_false_iff.2 hopen
    cases hcomplete : r.complete draft with
    | error name => simp [withRest, hcomplete] at hx
    | ok a =>
      have hx_end : (endArray [] >>= fun rest => .ok (a, rest)) = .ok x := by
        simpa [withRest, hcomplete] using hx
      exact absurd hx_end ((hend a).nil_ne x)

/-- A record lasts, since it ends with a bracket. -/
lemma closed_readRecord {r : Record δ α} (h : r.Settled) : Closed (readRecord r) := by
  refine ⟨fun s x hx hleft more => ?_, fun x hx => by cases hx⟩
  unfold readRecord at hx ⊢
  split at hx
  next s' hs =>
    rw [skipSpaces_append_cons hs]
    exact (closed_ofObject h).lasting s' x hx hleft more
  next s' hs =>
    rw [skipSpaces_append_cons hs]
    exact (closed_ofArray h).lasting s' x hx hleft more
  next => cases hx

/-! ## Whole texts -/

lemma readAll_eq_ok_iff {item : Reader α} {s : List Char} {a : α} :
    readAll item s = .ok a ↔ ∃ left, item s = .ok (a, left) ∧ ∀ c ∈ left, isSpace c = true := by
  constructor
  · intro h
    obtain ⟨⟨b, left⟩, hitem, hleft⟩ := exists_of_bind h
    dsimp only at hleft
    split at hleft
    next hspaces =>
      cases hleft
      exact ⟨left, hitem, List.dropWhile_eq_nil_iff.1 (List.isEmpty_iff.1 hspaces)⟩
    next => cases hleft
  · rintro ⟨left, hitem, hspaces⟩
    have hnil : skipSpaces left = [] := List.dropWhile_eq_nil_iff.2 hspaces
    simp [readAll, hitem, hnil, bind, Except.bind]

/-- If the whole text of a value goes on with more text and is the whole text of a value then, too,
it goes on with white space. -/
lemma Closed.isSpace_of_readAll {item : Reader α} (h : Closed item) {s more : List Char} {a b : α}
    (hs : readAll item s = .ok a) (hmore : readAll item (s ++ more) = .ok b) :
    ∀ c ∈ more, isSpace c = true := by
  obtain ⟨left, hitem, -⟩ := readAll_eq_ok_iff.1 hs
  obtain ⟨left', hitem', hspaces⟩ := readAll_eq_ok_iff.1 hmore
  rw [h.lasting s _ hitem (.inr trivial) more] at hitem'
  cases hitem'
  exact fun c hc => hspaces c (List.mem_append_right left hc)

end LintBridge.Json
