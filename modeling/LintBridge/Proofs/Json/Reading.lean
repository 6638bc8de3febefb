/-
# Reading what the grammar allows

A reader knows what it wants, and reads every text that the grammar has for it.  White space before
the text does not matter, and neither does what follows, as long as it does not carry a number on.

* `Reads`: a reader reads a text as a value.
* `Reads.string`, `Reads.uint32`, `Reads.option`, `Reads.list`: strings, numbers, values that may be
  missing, lists.
* `Told`: what the members of an object tell, one after another, and `objectBody_told`.
* `Reads.readAll`: a whole text.
-/
import LintBridge.Json.Typed
import LintBridge.Proofs.Json.Scanning

namespace LintBridge.Json

variable {α β σ : Type}

/-- A text that starts as a value does, neither with white space nor with a closing bracket. -/
def Starts (text : List Char) : Prop :=
  ∃ c rest, text = c :: rest ∧ isSpace c = false ∧ c ≠ ']' ∧ c ≠ '}'

/-- A number is told from everything else by its first character. -/
lemma ne_of_startsNumber {c : Char} (h : startsNumber c = true) :
    isSpace c = false ∧ c ≠ 'n' ∧ c ≠ 't' ∧ c ≠ 'f' ∧ c ≠ '"' ∧ c ≠ '[' ∧ c ≠ ']' ∧ c ≠ '{' ∧
      c ≠ '}' := by
  refine ⟨?_, ?_, ?_, ?_, ?_, ?_, ?_, ?_, ?_⟩
  · rw [Bool.eq_false_iff]
    intro hc
    simp only [isSpace, Bool.or_eq_true, decide_eq_true_eq] at hc
    rcases hc with ((rfl | rfl) | rfl) | rfl <;> cases h
  all_goals
    rintro rfl
    cases h

lemma Digit.startsNumber {c : Char} (h : Digit c) : startsNumber c = true := by
  rw [Json.startsNumber, isDigit_iff.2 h, Bool.or_true]

lemma starts_number {c : Char} (h : startsNumber c = true) (rest : List Char) :
    Starts (c :: rest) := by
  obtain ⟨hspace, -, -, -, -, -, hbracket, -, hbrace⟩ := ne_of_startsNumber h
  exact ⟨c, rest, rfl, hspace, hbracket, hbrace⟩

/-- A quote starts a value. -/
lemma starts_quote (body : List Char) : Starts ('"' :: body) :=
  ⟨'"', body, rfl, rfl, by decide, by decide⟩

/-- The opening bracket of an array starts a value. -/
lemma starts_bracket (body : List Char) : Starts ('[' :: body) :=
  ⟨'[', body, rfl, rfl, by decide, by decide⟩

/-- The opening brace of an object starts a value. -/
lemma starts_brace (body : List Char) : Starts ('{' :: body) :=
  ⟨'{', body, rfl, rfl, by decide, by decide⟩

lemma starts_null : Starts ['n', 'u', 'l', 'l'] := ⟨'n', _, rfl, rfl, by decide, by decide⟩

lemma starts_true : Starts ['t', 'r', 'u', 'e'] := ⟨'t', _, rfl, rfl, by decide, by decide⟩

lemma starts_false : Starts ['f', 'a', 'l', 's', 'e'] := ⟨'f', _, rfl, rfl, by decide, by decide⟩

lemma Starts.length_pos {text : List Char} (h : Starts text) : 0 < text.length := by
  obtain ⟨c, s, rfl, -⟩ := h
  exact Nat.succ_pos _

lemma Starts.skipSpaces_gap {gap text : List Char} (h : Starts text) (hgap : Gap gap)
    (rest : List Char) : skipSpaces (gap ++ (text ++ rest)) = text ++ rest := by
  obtain ⟨c, s, rfl, hc, -⟩ := h
  rw [Json.skipSpaces_gap hgap, List.cons_append, skipSpaces_cons hc]

/-- A reader reads a text as a value. -/
structure Reads (item : Reader α) (text : List Char) (a : α) : Prop where
  starts : Starts text
  eq : ∀ gap rest, Gap gap → Ends rest → item (gap ++ (text ++ rest)) = .ok (a, rest)

/-- What is made of a value once it has been read. -/
lemma Reads.andThen {item : Reader α} {next : α × List Char → Except Fault (β × List Char)}
    {text : List Char} {a : α} {b : β} (h : Reads item text a)
    (hnext : ∀ rest, next (a, rest) = .ok (b, rest)) : Reads (fun s => item s >>= next) text b := by
  refine ⟨h.starts, fun gap rest hgap hrest => ?_⟩
  show item (gap ++ (text ++ rest)) >>= next = _
  rw [h.eq gap rest hgap hrest]
  exact hnext rest

/-- The value of a whole text. -/
lemma Reads.readAll {item : Reader α} {text : List Char} {a : α} (h : Reads item text a)
    {gap : List Char} (hgap : Gap gap) : readAll item (text ++ gap) = .ok a := by
  have hspaces : skipSpaces gap = [] := by
    have hskip := skipSpaces_gap hgap []
    rwa [List.append_nil] at hskip
  have hends : Ends gap := by
    have hends := ends_gap hgap ends_nil
    rwa [List.append_nil] at hends
  have heq := h.eq [] gap gap_nil hends
  rw [List.nil_append] at heq
  simp [Json.readAll, heq, hspaces, bind, Except.bind]

/-! ## Strings, numbers and missing values -/

lemma Reads.string {s : String} {text : List Char} (h : StringSpelling s text) (want : String) :
    Reads (readStringAs want) text s := by
  obtain ⟨body, rfl, hbody⟩ := stringBody_spelled h
  refine ⟨starts_quote body, fun gap rest hgap _ => ?_⟩
  rw [readStringAs, (starts_quote body).skipSpaces_gap hgap]
  exact hbody rest

lemma NaturalText.exists_cons {n : Nat} {text : List Char} (h : NaturalText n text) :
    ∃ d ds, text = d :: ds ∧ startsNumber d = true := by
  obtain ⟨d, ds, hds, hd, -⟩ := (isWhole_toDigits n).exists_cons
  exact ⟨d, ds, h.trans hds, hd.startsNumber⟩

lemma Reads.below {n bound : Nat} {text : List Char} (h : NaturalText n text) (hn : n < bound)
    (hbound : bound ≤ Nat.pow 2 64) (want : String) : Reads (readBelow bound want) text n := by
  obtain ⟨d, ds, rfl, hd⟩ := h.exists_cons
  have hstarts : Starts (d :: ds) := starts_number hd ds
  refine ⟨hstarts, fun gap rest hgap hrest => ?_⟩
  have hread : readNumber (d :: ds ++ rest) = .ok (.natural n, rest) := by
    rw [h]
    exact readNumber_natural (Nat.lt_of_lt_of_le hn hbound) hrest
  rw [readBelow, hstarts.skipSpaces_gap hgap]
  rw [List.cons_append] at hread ⊢
  simp [hd, hread, hn, bind, Except.bind]

lemma Reads.uint8 {n : UInt8} {text : List Char} (h : NaturalText n.toNat text) :
    Reads readUInt8 text n := by
  have hn : n.toNat < Nat.pow 2 8 := n.toNat_lt
  exact (Reads.below h hn (by decide) "u8").andThen fun rest => by simp

lemma Reads.uint32 {n : UInt32} {text : List Char} (h : NaturalText n.toNat text) :
    Reads readUInt32 text n := by
  have hn : n.toNat < Nat.pow 2 32 := n.toNat_lt
  exact (Reads.below h hn (by decide) "u32").andThen fun rest => by simp

/-- A value that may be missing, where no other value starts as `null` does. -/
lemma Reads.option {item : Reader α} {Text : α → List Char → Prop} {o : Option α}
    {text : List Char} (h : OptionText Text o text)
    (hitem : ∀ a, Text a text → Reads item text a ∧ text.head? ≠ some 'n') :
    Reads (readOption item) text o := by
  cases o with
  | none =>
    obtain rfl : text = _ := h
    refine ⟨starts_null, fun gap rest hgap _ => ?_⟩
    rw [readOption, starts_null.skipSpaces_gap hgap]
    rfl
  | some a =>
    obtain ⟨hread, hnull⟩ := hitem a h
    refine ⟨hread.starts, fun gap rest hgap hrest => ?_⟩
    have heq := hread.eq [] rest gap_nil hrest
    rw [readOption, hread.starts.skipSpaces_gap hgap]
    obtain ⟨c, s, rfl, -⟩ := hread.starts
    have hc : c ≠ 'n' := fun hc => hnull (congrArg some hc)
    rw [List.nil_append, List.cons_append] at heq
    simp [hc, heq, bind, Except.bind]

lemma Reads.optionString {o : Option String} {text : List Char}
    (h : OptionText StringSpelling o text) : Reads (readOption readString) text o := by
  refine .option h fun s hs => ⟨.string hs "a string", ?_⟩
  obtain ⟨body, rfl, -⟩ := stringBody_spelled hs
  simp

lemma Reads.optionUInt32 {o : Option UInt32} {text : List Char}
    (h : OptionText (fun n => NaturalText n.toNat) o text) :
    Reads (readOption readUInt32) text o := by
  refine .option h fun n hn => ⟨.uint32 hn, ?_⟩
  obtain ⟨d, ds, rfl, hd⟩ := NaturalText.exists_cons hn
  simp [(ne_of_startsNumber hd).2.1]

/-! ## Arrays -/

section Items

variable {gap gap' text rest : List Char}

lemma nextItem_close (hgap : Gap gap) (first : Bool) (rest : List Char) :
    nextItem first (gap ++ ']' :: rest) = .ok (false, rest) := by
  rw [nextItem, skipSpaces_gap hgap, skipSpaces_cons rfl]
  rfl

lemma nextItem_first (hgap : Gap gap) (h : Starts text) (rest : List Char) :
    nextItem true (gap ++ (text ++ rest)) = .ok (true, text ++ rest) := by
  rw [nextItem, h.skipSpaces_gap hgap]
  obtain ⟨c, s, rfl, -, hc, -⟩ := h
  simp

lemma nextItem_comma (hgap : Gap gap) (hgap' : Gap gap') (h : Starts text) (rest : List Char) :
    nextItem false (gap ++ ',' :: (gap' ++ (text ++ rest))) = .ok (true, text ++ rest) := by
  have hskip := h.skipSpaces_gap hgap' rest
  obtain ⟨c, s, rfl, -, hc, -⟩ := h
  rw [List.cons_append] at hskip ⊢
  rw [nextItem, skipSpaces_gap hgap, skipSpaces_cons rfl]
  simp [hskip, hc]

end Items

/-- The items after the first one are read one after another. -/
lemma moreItems_leads {item : Reader α} {items : List (List Char)} {text : List Char}
    (h : MorePieces ']' items text) {l : List α} (hitems : List.Forall₂ (Reads item) items l)
    (read : List α) (rest : List Char) :
    Turn.Leads (listTurn item) (.again (false, read) (text ++ rest))
      (.done (read.reverse ++ l) rest) := by
  induction h generalizing l read with
  | close hgap =>
    cases hitems
    rw [List.append_assoc, List.append_nil]
    exact .single (by simp [listTurn, nextItem_close hgap, bind, Except.bind]) (by simp; omega)
  | @more gap gap' piece text pieces hgap hgap' h ih =>
    cases hitems with
    | @cons _ a _ l hread hitems =>
      have heq := hread.eq [] (text ++ rest) gap_nil (h.ends rfl rest)
      rw [List.nil_append] at heq
      have hturn : listTurn item (false, read) (gap ++ ',' :: (gap' ++ (piece ++ (text ++ rest)))) =
          .ok (.again (false, a :: read) (text ++ rest)) := by
        simp [listTurn, nextItem_comma hgap hgap' hread.starts, heq, bind, Except.bind]
      simp only [List.append_assoc, List.cons_append]
      refine .step hturn (by simp; omega) ?_
      simpa using ih hitems (a :: read)

/-- The items of a list are read one after another. -/
lemma listBody_pieces {item : Reader α} {items : List (List Char)} {body : List Char}
    (h : Pieces ']' items body) {l : List α} (hitems : List.Forall₂ (Reads item) items l)
    (rest : List Char) : listBody item (body ++ rest) = .ok (l, rest) := by
  refine repeatedly_of_leads ?_
  cases h with
  | close hgap =>
    cases hitems
    rw [List.append_assoc]
    exact .single (by simp [listTurn, nextItem_close hgap, bind, Except.bind]) (by simp; omega)
  | @first gap piece text pieces hgap h =>
    cases hitems with
    | @cons _ a _ l hread hitems =>
      have heq := hread.eq [] (text ++ rest) gap_nil (h.ends rfl rest)
      rw [List.nil_append] at heq
      have hturn : listTurn item (true, []) (gap ++ (piece ++ (text ++ rest))) =
          .ok (.again (false, [a]) (text ++ rest)) := by
        simp [listTurn, nextItem_first hgap hread.starts, heq, bind, Except.bind]
      have hpos := hread.starts.length_pos
      simp only [List.append_assoc]
      exact .step hturn (by simp; omega) (moreItems_leads h hitems [a] rest)

/-- A list is read item by item. -/
lemma Reads.list {item : Reader α} {items : List (List Char)} {text : List Char}
    (h : ArrayText items text) {l : List α} (hitems : List.Forall₂ (Reads item) items l) :
    Reads (readList item) text l := by
  obtain ⟨body, hbody, rfl⟩ := h
  refine ⟨starts_bracket body, fun gap rest hgap _ => ?_⟩
  rw [readList, (starts_bracket body).skipSpaces_gap hgap]
  exact listBody_pieces hbody hitems rest

/-! ## Objects -/

section Keys

variable {gap gap' key : List Char} {k : String}

lemma readColon_gap (hgap : Gap gap) (s : List Char) : readColon (gap ++ ':' :: s) = .ok s := by
  rw [readColon, skipSpaces_gap hgap, skipSpaces_cons rfl]
  rfl

lemma nextKey_close (hgap : Gap gap) (first : Bool) (rest : List Char) :
    nextKey first (gap ++ '}' :: rest) = .ok (none, rest) := by
  rw [nextKey, skipSpaces_gap hgap, skipSpaces_cons rfl]
  rfl

lemma nextKey_first (hgap : Gap gap) (h : StringSpelling k key) (rest : List Char) :
    nextKey true (gap ++ (key ++ rest)) = .ok (some k, rest) := by
  obtain ⟨body, rfl, hbody⟩ := stringBody_spelled h
  rw [nextKey, skipSpaces_gap hgap, List.cons_append, skipSpaces_cons rfl]
  simp [hbody, bind, Except.bind]

lemma nextKey_comma (hgap : Gap gap) (hgap' : Gap gap') (h : StringSpelling k key)
    (rest : List Char) :
    nextKey false (gap ++ ',' :: (gap' ++ (key ++ rest))) = .ok (some k, rest) := by
  obtain ⟨body, rfl, hbody⟩ := stringBody_spelled h
  have hskip : skipSpaces (gap' ++ ('"' :: (body ++ rest))) = '"' :: (body ++ rest) := by
    rw [skipSpaces_gap hgap', skipSpaces_cons rfl]
  rw [nextKey, skipSpaces_gap hgap, skipSpaces_cons rfl]
  simp [hskip, hbody, bind, Except.bind]

end Keys

/-- The members of an object tell a reader something, one after another: it goes from the first
state to the last one. -/
inductive Told (member : String → σ → Reader σ) : List (String × List Char) → σ → σ → Prop
  | nil (a : σ) : Told member [] a a
  | cons {k : String} {value : List Char} {members : List (String × List Char)} {a b c : σ}
      (hvalue : ∀ gap gap' rest, Gap gap → Gap gap' → Ends rest →
        member k a (gap ++ ':' :: (gap' ++ (value ++ rest))) = .ok (b, rest))
      (h : Told member members b c) : Told member ((k, value) :: members) a c

/-- What `ObjectText` says of a member and its text. -/
abbrev Spells (m : String × List Char) (piece : List Char) : Prop :=
  ∃ key, StringSpelling m.1 key ∧ MemberText key m.2 piece

/-- The members after the first one are read one after another. -/
lemma moreMembers_leads {member : String → σ → Reader σ} {members : List (String × List Char)}
    {a c : σ} (htold : Told member members a c) {pieces : List (List Char)}
    (hpieces : List.Forall₂ Spells members pieces) {text : List Char}
    (h : MorePieces '}' pieces text) (rest : List Char) :
    Turn.Leads (memberTurn member) (.again (false, a) (text ++ rest)) (.done c rest) := by
  induction h generalizing members a with
  | close hgap =>
    cases hpieces
    cases htold
    rw [List.append_assoc]
    exact .single (by simp [memberTurn, nextKey_close hgap, bind, Except.bind]) (by simp; omega)
  | @more gap gap' piece text pieces hgap hgap' h ih =>
    cases hpieces with
    | cons hpiece hpieces =>
      cases htold with
      | @cons k value members a b c hvalue htold =>
        obtain ⟨key, hkey, outer, inner, houter, hinner, rfl⟩ := hpiece
        have heq := hvalue outer inner (text ++ rest) houter hinner (h.ends rfl rest)
        simp only [List.append_assoc, List.cons_append] at heq ⊢
        refine .step ?_ (by simp; omega) (ih htold hpieces)
        simp [memberTurn, nextKey_comma hgap hgap' hkey, heq, bind, Except.bind]

/-- An object is read member by member. -/
lemma objectBody_told {member : String → σ → Reader σ} {members : List (String × List Char)}
    {a c : σ} (htold : Told member members a c) {pieces : List (List Char)}
    (hpieces : List.Forall₂ Spells members pieces) {body : List Char} (h : Pieces '}' pieces body)
    (rest : List Char) : objectBody member a (body ++ rest) = .ok (c, rest) := by
  refine repeatedly_of_leads ?_
  cases h with
  | close hgap =>
    cases hpieces
    cases htold
    rw [List.append_assoc]
    exact .single (by simp [memberTurn, nextKey_close hgap, bind, Except.bind]) (by simp; omega)
  | @first gap piece text pieces hgap h =>
    cases hpieces with
    | cons hpiece hpieces =>
      cases htold with
      | @cons k value members a b c hvalue htold =>
        obtain ⟨key, hkey, outer, inner, houter, hinner, rfl⟩ := hpiece
        have heq := hvalue outer inner (text ++ rest) houter hinner (h.ends rfl rest)
        simp only [List.append_assoc, List.cons_append] at heq ⊢
        refine .step ?_ (by simp; omega) (moreMembers_leads htold hpieces h rest)
        simp [memberTurn, nextKey_first hgap hkey, heq, bind, Except.bind]

end LintBridge.Json
