/-
# Passing over any value

A value that nobody asked for is passed over whatever it is, as long as its syntax is right.  Arrays
and objects that are still open are kept on a stack, so the induction on the value is for any stack:
the scanner goes from the start of the value to where it is when the value has just been passed.

* `Passes`: a text is passed over, inside any arrays and objects.
* `IsValue.passes`: every value is, and `skipValue_isValue`.
-/
import LintBridge.Proofs.Json.Reading

namespace LintBridge.Json

/-! ## Strings and numbers -/

lemma skipStringTurn_piece {piece : List Char} (h : StringPiece piece) (rest : List Char) :
    skipStringTurn () (piece ++ rest) = .ok (.again () rest) := by
  cases h with
  | bare h =>
    obtain ⟨hge, hquote, hslash⟩ := h
    have hlt : ¬Char.toNat _ < 32 := Nat.not_lt.2 hge
    simp [skipStringTurn, hlt]
  | @letter l c h =>
    have hskip : skipEscape (l :: rest) = .ok rest := by
      rw [skipEscape, simpleEscape?_of_mem h]
      · rfl
      · exact ne_u_of_mem h
    simp [skipStringTurn, hskip]
  | unit h => simp [skipStringTurn, skipEscape, readHex4_of_codeUnit h]

lemma StringPiece.ne_nil {piece : List Char} (h : StringPiece piece) : piece ≠ [] := by
  cases h <;> simp

lemma skipStringTurn_leads {parts : List (List Char)} (h : ∀ part ∈ parts, StringPiece part)
    (rest : List Char) :
    Turn.Leads skipStringTurn (.again () (parts.flatten ++ '"' :: rest)) (.done () rest) := by
  induction parts with
  | nil => exact .single rfl (by simp)
  | cons part parts ih =>
    have hpart := h part List.mem_cons_self
    have hpos := List.length_pos_of_ne_nil hpart.ne_nil
    rw [List.flatten_cons, List.append_assoc]
    refine .step (skipStringTurn_piece hpart _) (by simp; omega) ?_
    exact ih fun p hp => h p (List.mem_cons_of_mem part hp)

lemma skipString_isString {text : List Char} (h : IsString text) :
    ∃ body, text = '"' :: body ∧ ∀ rest, skipString (body ++ rest) = .ok ((), rest) := by
  obtain ⟨parts, hparts, rfl⟩ := h
  refine ⟨_, rfl, fun rest => ?_⟩
  rw [List.append_assoc, skipString]
  exact repeatedly_of_leads (skipStringTurn_leads hparts rest)

lemma IsNumber.exists_cons {text : List Char} (h : IsNumber text) :
    ∃ c rest, text = c :: rest ∧ startsNumber c = true := by
  cases h with
  | @parts sign whole fraction exponent hsign hwhole hfraction hexponent =>
    simp only [List.mem_cons, List.not_mem_nil, or_false] at hsign
    rcases hsign with rfl | rfl
    · obtain ⟨d, ds, rfl, hd, -⟩ := hwhole.exists_cons
      exact ⟨d, _, rfl, hd.startsNumber⟩
    · exact ⟨'-', _, rfl, rfl⟩

lemma skipNumber_isNumber {text rest : List Char} (h : IsNumber text) (hrest : Ends rest) :
    skipNumber (text ++ rest) = .ok rest := by
  obtain ⟨x, hx⟩ := readNumeral_number h hrest
  simp [skipNumber, hx]

/-! ## Values -/

@[simp] lemma rest_afterValue (frames : List Frame) (rest : List Char) :
    (afterValue frames rest).rest = rest := by
  cases frames <;> rfl

/-- A text is passed over as a value, inside any arrays and objects. -/
structure Passes (text : List Char) : Prop where
  starts : Starts text
  leads : ∀ frames gap rest, Gap gap → Ends rest → ∃ t,
    skipStart frames (gap ++ (text ++ rest)) = .ok t ∧ t.rest.length < text.length + rest.length ∧
      t.Leads skipTurn (afterValue frames rest)

/-- A value that is not nested is passed over at once. -/
lemma Passes.of_eq {text : List Char} (hstarts : Starts text)
    (h : ∀ frames gap rest, Gap gap → Ends rest →
      skipStart frames (gap ++ (text ++ rest)) = .ok (afterValue frames rest)) : Passes text := by
  refine ⟨hstarts, fun frames gap rest hgap hrest => ⟨_, h frames gap rest hgap hrest, ?_, .refl _⟩⟩
  have hpos := hstarts.length_pos
  rw [rest_afterValue]
  omega

lemma IsString.passes {text : List Char} (h : IsString text) : Passes text := by
  obtain ⟨body, rfl, hbody⟩ := skipString_isString h
  refine .of_eq (starts_quote body) fun frames gap rest hgap _ => ?_
  rw [skipStart, (starts_quote body).skipSpaces_gap hgap]
  simp [hbody, bind, Except.bind, pure, Except.pure]

lemma IsNumber.passes {text : List Char} (h : IsNumber text) : Passes text := by
  obtain ⟨c, s, rfl, hc⟩ := h.exists_cons
  have hstarts := starts_number hc s
  refine .of_eq hstarts fun frames gap rest hgap hrest => ?_
  have hskip := skipNumber_isNumber h hrest
  obtain ⟨-, hn, ht, hf, hquote, hbracket, -, hbrace, -⟩ := ne_of_startsNumber hc
  rw [skipStart, hstarts.skipSpaces_gap hgap]
  rw [List.cons_append] at hskip ⊢
  simp [hc, hskip, bind, Except.bind, pure, Except.pure]

/-! ## Arrays and objects -/

/-- The bracket that closes an array or an object. -/
def Frame.closing : Frame → Char
  | array => ']'
  | object => '}'

lemma Frame.carriesOn_closing (frame : Frame) : carriesOn frame.closing = false := by
  cases frame <;> rfl

lemma skipTurn_close {gap : List Char} (hgap : Gap gap) (passed : Bool) (frame : Frame)
    (frames : List Frame) (rest : List Char) :
    skipTurn ⟨some passed, frame :: frames⟩ (gap ++ frame.closing :: rest) =
      .ok (afterValue frames rest) := by
  cases frame <;>
    simp [skipTurn, skipNext, skipSpaces_gap hgap, skipSpaces_cons, isSpace, Frame.closing]

/-- A piece of an array or object is passed over, the first one and one after a comma. -/
structure PassesPiece (frame : Frame) (piece : List Char) : Prop where
  first : ∀ frames gap rest, Gap gap → Ends rest →
    Turn.Leads skipTurn (.again ⟨some false, frame :: frames⟩ (gap ++ (piece ++ rest)))
      (.again ⟨some true, frame :: frames⟩ rest)
  more : ∀ frames gap gap' rest, Gap gap → Gap gap' → Ends rest →
    Turn.Leads skipTurn
      (.again ⟨some true, frame :: frames⟩ (gap ++ ',' :: (gap' ++ (piece ++ rest))))
      (.again ⟨some true, frame :: frames⟩ rest)

/-- An item of an array is a value. -/
lemma Passes.piece {text : List Char} (h : Passes text) : PassesPiece .array text where
  first frames gap rest hgap hrest := by
    obtain ⟨t, hstart, hshorter, hleads⟩ := h.leads (.array :: frames) [] rest gap_nil hrest
    refine .step ?_ (by simp; omega) hleads
    have hskip := h.starts.skipSpaces_gap hgap rest
    obtain ⟨c, s, rfl, -, hc, -⟩ := h.starts
    rw [List.cons_append] at hskip
    rw [List.nil_append, List.cons_append] at hstart
    simp [skipTurn, skipNext, hskip, hstart]
  more frames gap gap' rest hgap hgap' hrest := by
    obtain ⟨t, hstart, hshorter, hleads⟩ := h.leads (.array :: frames) gap' rest hgap' hrest
    have hgoes : Turn.Leads skipTurn (.again ⟨none, .array :: frames⟩ (gap' ++ (text ++ rest)))
        (.again ⟨some true, .array :: frames⟩ rest) := .step hstart (by simp; omega) hleads
    refine .step ?_ (by simp; omega) hgoes
    simp [skipTurn, skipNext, skipSpaces_gap hgap, skipSpaces_cons, isSpace]

lemma skipKey_key {gap gap' key : List Char} (hgap : Gap gap) (hkey : IsString key)
    (hgap' : Gap gap') (frames : List Frame) (s : List Char) :
    skipKey frames (gap ++ (key ++ (gap' ++ ':' :: s))) = .ok (.again ⟨none, frames⟩ s) := by
  obtain ⟨body, rfl, hbody⟩ := skipString_isString hkey
  have hskip : skipSpaces (gap ++ ('"' :: (body ++ (gap' ++ ':' :: s)))) =
      '"' :: (body ++ (gap' ++ ':' :: s)) := by
    rw [skipSpaces_gap hgap, skipSpaces_cons rfl]
  have hcolon : skipSpaces (gap' ++ ':' :: s) = ':' :: s := by
    rw [skipSpaces_gap hgap', skipSpaces_cons rfl]
  simp [skipKey, hskip, hbody, hcolon, bind, Except.bind]

/-- A member of an object is a key and a value. -/
lemma Passes.member {key value text : List Char} (hkey : IsString key) (hvalue : Passes value)
    (h : MemberText key value text) : PassesPiece .object text := by
  obtain ⟨outer, inner, houter, hinner, rfl⟩ := h
  -- from the value on, the object goes on as after any value
  have hgoes (frames : List Frame) (rest : List Char) (hrest : Ends rest) :
      Turn.Leads skipTurn (.again ⟨none, .object :: frames⟩ (inner ++ (value ++ rest)))
        (.again ⟨some true, .object :: frames⟩ rest) := by
    obtain ⟨t, hstart, hshorter, hleads⟩ := hvalue.leads (.object :: frames) inner rest hinner hrest
    exact .step hstart (by simp; omega) hleads
  constructor
  · intro frames gap rest hgap hrest
    simp only [List.append_assoc, List.cons_append]
    refine .step ?_ (by simp; omega) (hgoes frames rest hrest)
    have hread := skipKey_key gap_nil hkey houter (.object :: frames) (inner ++ (value ++ rest))
    obtain ⟨body, rfl, -⟩ := skipString_isString hkey
    rw [List.nil_append, List.cons_append] at hread
    simp [skipTurn, skipNext, skipSpaces_gap hgap, skipSpaces_cons, isSpace, hread]
  · intro frames gap gap' rest hgap hgap' hrest
    simp only [List.append_assoc, List.cons_append]
    refine .step ?_ (by simp; omega) (hgoes frames rest hrest)
    have hread := skipKey_key hgap' hkey houter (.object :: frames) (inner ++ (value ++ rest))
    simp [skipTurn, skipNext, skipSpaces_gap hgap, skipSpaces_cons, isSpace, hread]

/-- All pieces after the first one are passed over. -/
lemma morePieces_leads {frame : Frame} {pieces : List (List Char)} {text : List Char}
    (h : MorePieces frame.closing pieces text) (hpieces : ∀ p ∈ pieces, PassesPiece frame p)
    (frames : List Frame) (rest : List Char) :
    Turn.Leads skipTurn (.again ⟨some true, frame :: frames⟩ (text ++ rest))
      (afterValue frames rest) := by
  induction h with
  | close hgap =>
    rw [List.append_assoc]
    exact .single (skipTurn_close hgap true frame frames rest) (by simp; omega)
  | @more gap gap' piece text pieces hgap hgap' h ih =>
    have hpiece := hpieces piece List.mem_cons_self
    simp only [List.append_assoc, List.cons_append]
    refine (hpiece.more frames gap gap' (text ++ rest) hgap hgap' ?_).trans ?_
    · exact h.ends frame.carriesOn_closing rest
    · exact ih fun p hp => hpieces p (List.mem_cons_of_mem piece hp)

lemma pieces_leads {frame : Frame} {pieces : List (List Char)} {body : List Char}
    (h : Pieces frame.closing pieces body) (hpieces : ∀ p ∈ pieces, PassesPiece frame p)
    (frames : List Frame) (rest : List Char) :
    Turn.Leads skipTurn (.again ⟨some false, frame :: frames⟩ (body ++ rest))
      (afterValue frames rest) := by
  cases h with
  | close hgap =>
    rw [List.append_assoc]
    exact .single (skipTurn_close hgap false frame frames rest) (by simp; omega)
  | @first gap piece text pieces hgap h =>
    have hpiece := hpieces piece List.mem_cons_self
    simp only [List.append_assoc]
    refine (hpiece.first frames gap (text ++ rest) hgap ?_).trans ?_
    · exact h.ends frame.carriesOn_closing rest
    · exact morePieces_leads h (fun p hp => hpieces p (List.mem_cons_of_mem piece hp)) frames rest

/-- Every value is passed over. -/
lemma IsValue.passes {text : List Char} (h : IsValue text) : Passes text := by
  induction h with
  | null =>
    refine .of_eq starts_null fun frames gap rest hgap _ => ?_
    rw [skipStart, starts_null.skipSpaces_gap hgap]
    rfl
  | yes =>
    refine .of_eq starts_true fun frames gap rest hgap _ => ?_
    rw [skipStart, starts_true.skipSpaces_gap hgap]
    rfl
  | no =>
    refine .of_eq starts_false fun frames gap rest hgap _ => ?_
    rw [skipStart, starts_false.skipSpaces_gap hgap]
    rfl
  | number h => exact h.passes
  | string h => exact h.passes
  | @array items text hitems h ih =>
    obtain ⟨body, hbody, rfl⟩ := h
    refine ⟨starts_bracket body, fun frames gap rest hgap _ => ?_⟩
    refine ⟨.again ⟨some false, .array :: frames⟩ (body ++ rest), ?_, by simp, ?_⟩
    · rw [skipStart, (starts_bracket body).skipSpaces_gap hgap]
      rfl
    · have hbody : Pieces Frame.array.closing items body := hbody
      exact pieces_leads hbody (fun p hp => (ih p hp).piece) frames rest
  | @object members text hkeys hvalues h ih =>
    obtain ⟨pieces, body, hpieces, hbody, rfl⟩ := h
    refine ⟨starts_brace body, fun frames gap rest hgap _ => ?_⟩
    refine ⟨.again ⟨some false, .object :: frames⟩ (body ++ rest), ?_, by simp, ?_⟩
    · rw [skipStart, (starts_brace body).skipSpaces_gap hgap]
      rfl
    · have hbody : Pieces Frame.object.closing pieces body := hbody
      refine pieces_leads hbody (fun p hp => ?_) frames rest
      obtain ⟨m, hm, key, rfl, hmember⟩ := exists_of_forall₂ hpieces hp
      exact (ih m hm).member (hkeys m hm) hmember

/-- Whatever is a value by its syntax is passed over. -/
lemma skipValue_isValue {text gap rest : List Char} (h : IsValue text) (hgap : Gap gap)
    (hrest : Ends rest) : skipValue (gap ++ (text ++ rest)) = .ok ((), rest) := by
  obtain ⟨t, hstart, hshorter, hleads⟩ := h.passes.leads [] gap rest hgap hrest
  exact repeatedly_of_leads (.step hstart (by simp; omega) hleads)

end LintBridge.Json
