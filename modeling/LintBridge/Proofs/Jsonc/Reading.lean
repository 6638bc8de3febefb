/-
# Plain JSON is commented JSON

Every text of a value, as the grammar of JSON has it, is read as that value by the reader of
commented JSON.  The reader works off tokens with a stack of open arrays and objects, so the
induction on the value is for any stack: the reader goes from where the value is due to where it is
when the value has just been delivered.

* `Leads`: the reader goes from one state to another by tokens that it takes off the text.
* `Awaits`, `Reads`: a state in which a value is due, and a text that is read there.
* `Sequence.leads`: the pieces of an array or object, of which `sequence_items` and
  `sequence_members` are the two kinds.
* `reads_written`: the induction on the value.
* `read_written`: the law about whole texts.
-/
import LintBridge.Jsonc.Document
import LintBridge.Proofs.Jsonc.Scanning

namespace LintBridge.Jsonc

open Json (MorePieces Pieces Written)

/-! ## Working off tokens -/

/-- The reader goes from one state to another by tokens that it takes off the text. -/
inductive Leads : State → List Char → State → List Char → Prop
  | refl (state : State) (s : List Char) : Leads state s state s
  | step {state state' state'' : State} {t : Token} {s s' s'' : List Char}
      (htoken : nextToken s = .ok (some (t, s'))) (hshorter : s'.length < s.length)
      (hadvance : advance state t = .ok state') (h : Leads state' s' state'' s'') :
      Leads state s state'' s''

lemma Leads.trans {state state' state'' : State} {s s' s'' : List Char}
    (h : Leads state s state' s') (h' : Leads state' s' state'' s'') :
    Leads state s state'' s'' := by
  induction h with
  | refl => exact h'
  | step htoken hshorter hadvance _ ih => exact .step htoken hshorter hadvance (ih h')

/-- One token. -/
lemma Leads.token {state state' : State} {t : Token} {gap text rest : List Char}
    (hgap : Json.Gap gap) (h : Spells rest t text) (hadvance : advance state t = .ok state') :
    Leads state (gap ++ (text ++ rest)) state' rest := by
  refine .step (nextToken_spelled hgap h) ?_ hadvance (.refl state' rest)
  have hpos := h.length_pos
  rw [List.length_append, List.length_append]
  omega

/-- As a token takes something off the text, a budget of as many tokens as the text has characters
suffices. -/
lemma Leads.advanceAll {state state' : State} {s s' : List Char} (h : Leads state s state' s')
    (hend : nextToken s' = .ok none) {budget : List Char} (hbudget : s.length ≤ budget.length) :
    Jsonc.advanceAll state (tokensWithin budget s) = .ok state' := by
  -- on the tokens, for any budget that is as long as the text that is left
  induction h generalizing budget with
  | refl state s =>
    cases budget with
    | nil => rfl
    | cons b budget =>
      rw [tokensWithin, hend]
      rfl
  | step htoken hshorter hadvance _ ih =>
    match budget, hbudget with
    | b :: budget, hbudget =>
      rw [List.length_cons] at hbudget
      rw [tokensWithin, htoken]
      simp only [Jsonc.advanceAll, hadvance]
      exact ih hend (by omega)
    | [], hbudget =>
      rw [List.length_nil] at hbudget
      omega

/-- Where the tokens lead to a value and nothing else is left, the text is read as that value. -/
lemma Leads.read {s gap : List Char} {v : Json} (h : Leads .root s (.finished v) gap)
    (hgap : Json.Gap gap) : Jsonc.read s = .ok (some v) := by
  rw [Jsonc.read, tokens, h.advanceAll (nextToken_gap hgap) (Nat.le_refl _)]
  rfl

/-! ## Pieces of an array or object -/

/-- A state in which a value is due inside the given frames.  An array may also have its end there,
or a comma. -/
def Awaits (state : State) (frames : List Frame) : Prop :=
  ∀ t, t ≠ .comma → t ≠ .closeBracket → advance state t = begin frames t

lemma awaits_root : Awaits .root [] := fun _ _ _ => rfl

lemma awaits_value (key : String) (read : List (String × Json)) (outer : List Frame) :
    Awaits (.value key read outer) (.members read key :: outer) := fun _ _ _ => rfl

lemma awaits_item (read : List Json) (outer : List Frame) :
    Awaits (.item false read outer) (.items read :: outer) := by
  intro t _ hbracket
  cases t <;> first | rfl | exact absurd rfl hbracket

lemma delimits_morePieces {close : Char} {pieces : List (List Char)} {text : List Char}
    (h : MorePieces close pieces text) (hclose : close ∈ delimiters) (rest : List Char) :
    Delimits (text ++ rest) := by
  cases h with
  | close hgap =>
    rw [List.append_assoc]
    exact delimits_gap hgap (delimits_cons hclose rest)
  | more hgap _ _ =>
    rw [List.append_assoc]
    exact delimits_gap hgap (delimits_cons (by decide) _)

/-- How the reader goes through the pieces of an array or object: by which states, up to which
closing bracket, and what it comes to. -/
structure Sequence {α : Type} (close : Char) (closing : Token) (state : Bool → List α → State)
    (result : List α → State) (Piece : α → List Char → Prop) : Prop where
  delimits : close ∈ delimiters
  spells : ∀ rest, Spells rest closing [close]
  /-- The closing bracket may come after a piece, and in front of the first one. -/
  closes : ∀ comma read, advance (state comma read) closing = .ok (result read.reverse)
  /-- After a piece there may be a comma. -/
  goesOn : ∀ read, advance (state true read) .comma = .ok (state false read)
  /-- A piece is read where one is due. -/
  reads : ∀ {a piece}, Piece a piece → ∀ read gap rest, Json.Gap gap → Delimits rest →
    Leads (state false read) (gap ++ (piece ++ rest)) (state true (a :: read)) rest

namespace Sequence

variable {α : Type} {close : Char} {closing : Token} {state : Bool → List α → State}
  {result : List α → State} {Piece : α → List Char → Prop} {l : List α} {pieces : List (List Char)}
  {text : List Char}

/-- The pieces after the first one are read, each after its comma. -/
lemma leads_more (hseq : Sequence close closing state result Piece)
    (hpieces : List.Forall₂ Piece l pieces) (h : MorePieces close pieces text) (read : List α)
    (rest : List Char) :
    Leads (state true read) (text ++ rest) (result (read.reverse ++ l)) rest := by
  -- on the pieces that are left, for any pieces read before them
  induction h generalizing l read with
  | close hgap =>
    cases hpieces
    rw [List.append_assoc, List.append_nil]
    exact .token hgap (hseq.spells rest) (hseq.closes true read)
  | more hgap hgap' h ih =>
    cases hpieces with
    | @cons a _ l _ ha hl =>
      have hrest := delimits_morePieces h hseq.delimits rest
      have hmore := ih hl (a :: read)
      rw [List.reverse_cons, List.append_assoc, List.singleton_append] at hmore
      simp only [List.append_assoc, List.cons_append]
      exact (Leads.token hgap .comma (hseq.goesOn read)).trans
        ((hseq.reads ha read _ _ hgap' hrest).trans hmore)

/-- All pieces are read, and the closing bracket. -/
lemma leads (hseq : Sequence close closing state result Piece)
    (hpieces : List.Forall₂ Piece l pieces) (h : Pieces close pieces text) (rest : List Char) :
    Leads (state false []) (text ++ rest) (result l) rest := by
  cases h with
  | close hgap =>
    cases hpieces
    rw [List.append_assoc]
    exact .token hgap (hseq.spells rest) (hseq.closes false [])
  | first hgap h =>
    cases hpieces with
    | @cons a _ l _ ha hl =>
      have hrest := delimits_morePieces h hseq.delimits rest
      have hmore := hseq.leads_more hl h [a] rest
      simp only [List.append_assoc]
      exact (hseq.reads ha [] _ _ hgap hrest).trans hmore

end Sequence

/-! ## Values -/

/-- A text is read as a value, inside any arrays and objects. -/
def Reads (text : List Char) (v : Json) : Prop :=
  ∀ state frames gap rest, Awaits state frames → Json.Gap gap → Delimits rest →
    Leads state (gap ++ (text ++ rest)) (deliver v frames) rest

/-- A value of a single token. -/
lemma reads_token {text : List Char} {v : Json} {t : Token}
    (h : ∀ rest, Delimits rest → Spells rest t text) (hcomma : t ≠ .comma)
    (hbracket : t ≠ .closeBracket) (hbegin : ∀ frames, begin frames t = .ok (deliver v frames)) :
    Reads text v := by
  intro state frames gap rest hawaits hgap hrest
  refine .token hgap (h rest hrest) ?_
  rw [hawaits t hcomma hbracket, hbegin]

/-- A natural number is neither hexadecimal nor out of range. -/
lemma numberValue_toDigits {n : Nat} (hn : n < Nat.pow 2 64) :
    numberValue (Nat.toDigits 10 n) = .ofNat n := by
  have hdigits := (Json.isWhole_toDigits n).1.2
  have hdecimal : decimal? (Nat.toDigits 10 n) = some (.ofNat n) := by
    have hread := Json.readNumber_natural hn Json.ends_nil
    rw [List.append_nil] at hread
    rw [decimal?, hread]
    rfl
  have hmem {c : Char} (hc : ¬Json.Digit c) : c ∉ Nat.toDigits 10 n := fun h => hc (hdigits c h)
  have hunsigned : unsignedValue? false (Nat.toDigits 10 n) = some (.ofNat n) := by
    rw [unsignedValue?]
    · exact hdecimal
    · exact fun ds heq => hmem (c := 'x') (by decide) (by simp [heq])
    · exact fun ds heq => hmem (c := 'X') (by decide) (by simp [heq])
  rw [numberValue]
  · rw [hunsigned]
    rfl
  · exact fun s heq => hmem (c := '-') (by decide) (by simp [heq])
  · exact fun s heq => hmem (c := '+') (by decide) (by simp [heq])

/-- The items of an array. -/
lemma sequence_items (frames : List Frame) :
    Sequence ']' .closeBracket (fun comma read => .item comma read frames)
      (fun l => deliver (.array l) frames) (fun v item => Reads item v) where
  delimits := by decide
  spells _ := .closeBracket
  closes comma _ := by cases comma <;> rfl
  goesOn _ := rfl
  reads hread read gap rest hgap hrest := hread _ _ gap rest (awaits_item read frames) hgap hrest

lemma Reads.array {l : List Json} {items : List (List Char)} {text : List Char}
    (hitems : List.Forall₂ (fun v item => Reads item v) l items) (h : Json.ArrayText items text) :
    Reads text (.array l) := by
  obtain ⟨body, hbody, rfl⟩ := h
  intro state frames gap rest hawaits hgap _
  have hopen : Leads state (gap ++ (['['] ++ (body ++ rest))) (.item false [] frames)
      (body ++ rest) := .token hgap .openBracket (hawaits _ (by decide) (by decide))
  exact hopen.trans ((sequence_items frames).leads hitems hbody rest)

/-- A text is a member, whose value is read. -/
def ReadsMember (m : String × Json) (piece : List Char) : Prop :=
  ∃ key value, Json.StringSpelling m.1 key ∧ Json.MemberText key value piece ∧ Reads value m.2

/-- The members of an object: each is a key, a colon and a value. -/
lemma sequence_members (frames : List Frame) :
    Sequence '}' .closeBrace (fun comma read => .key comma read frames)
      (fun l => deliver (.object l) frames) ReadsMember where
  delimits := by decide
  spells _ := .closeBrace
  closes comma _ := by cases comma <;> rfl
  goesOn _ := rfl
  reads := by
    rintro m piece ⟨key, value, hkey, hpiece, hvalue⟩ read gap rest hgap hrest
    obtain ⟨gap₁, gap₂, hgap₁, hgap₂, rfl⟩ := hpiece
    have hname : Leads (.key false read frames)
        (gap ++ (key ++ (gap₁ ++ ([':'] ++ (gap₂ ++ (value ++ rest)))))) (.colon m.1 read frames)
        (gap₁ ++ ([':'] ++ (gap₂ ++ (value ++ rest)))) := .token hgap (.string hkey) rfl
    have hcolon : Leads (.colon m.1 read frames) (gap₁ ++ ([':'] ++ (gap₂ ++ (value ++ rest))))
        (.value m.1 read frames) (gap₂ ++ (value ++ rest)) := .token hgap₁ .colon rfl
    have hread : Leads (.value m.1 read frames) (gap₂ ++ (value ++ rest))
        (.key true (m :: read) frames) rest :=
      hvalue _ _ gap₂ rest (awaits_value m.1 read frames) hgap₂ hrest
    simpa using hname.trans (hcolon.trans hread)

lemma Reads.object {members : List ((String × Json) × List Char)} {text : List Char}
    (hvalues : ∀ m ∈ members, Reads m.2 m.1.2)
    (h : Json.ObjectText Json.StringSpelling (members.map fun m => (m.1.1, m.2)) text) :
    Reads text (.object (members.map Prod.fst)) := by
  obtain ⟨pieces, body, hpieces, hbody, rfl⟩ := h
  have hmembers : List.Forall₂ ReadsMember (members.map Prod.fst) pieces := by
    rw [List.forall₂_map_left_iff] at hpieces ⊢
    refine ((List.forall₂_and_left _ _).2 ⟨hvalues, hpieces⟩).imp ?_
    rintro m piece ⟨hvalue, key, hkey, hpiece⟩
    exact ⟨key, m.2, hkey, hpiece, hvalue⟩
  intro state frames gap rest hawaits hgap _
  have hopen : Leads state (gap ++ (['\x7b'] ++ (body ++ rest))) (.key false [] frames)
      (body ++ rest) := .token hgap .openBrace (hawaits _ (by decide) (by decide))
  exact hopen.trans ((sequence_members frames).leads hmembers hbody rest)

/-- Every text of a value is read as the value. -/
lemma reads_written {v : Json} {text : List Char} (h : Written v text) : Reads text v := by
  -- on the value; the hypothesis for a part of it serves inside any arrays and objects
  induction h with
  | null => exact reads_token (fun _ => .null) (by decide) (by decide) fun _ => rfl
  | yes => exact reads_token (fun _ => .yes) (by decide) (by decide) fun _ => rfl
  | no => exact reads_token (fun _ => .no) (by decide) (by decide) fun _ => rfl
  | @natural n text hn h =>
    subst h
    have hbegin (frames : List Frame) :
        begin frames (.number (Nat.toDigits 10 n)) = .ok (deliver (.ofNat n) frames) := by
      rw [begin, numberValue_toDigits hn]
    exact reads_token (fun _ => .number (Json.isWhole_toDigits n)) (by simp) (by simp) hbegin
  | string h => exact reads_token (fun _ _ => .string h) (by simp) (by simp) fun _ => rfl
  | array _ h ih =>
    refine Reads.array ?_ h
    rw [List.forall₂_map_left_iff, List.forall₂_map_right_iff, List.forall₂_same]
    exact ih
  | object _ h ih => exact Reads.object ih h

/-- **Plain JSON is commented JSON.**  A text of a value, between white space, is read as that
value. -/
theorem read_written {v : Json} {text gap gap' : List Char} (h : Written v text)
    (hgap : Json.Gap gap) (hgap' : Json.Gap gap') :
    read (gap ++ (text ++ gap')) = .ok (some v) := by
  have hrest : Delimits gap' := by
    have hdelimits := delimits_gap hgap' delimits_nil
    rwa [List.append_nil] at hdelimits
  exact (reads_written h _ _ gap gap' awaits_root hgap hrest).read hgap'

end LintBridge.Jsonc
