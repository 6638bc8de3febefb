/-
# Scanning what the grammar allows

A scanner takes the whole of a text that the grammar allows, and leaves what follows it.  A string
ends by itself; a number ends where what follows does not carry it on.

* `Ends`: the texts that do not carry a number on.
* `stringBody_spelled`: a string is scanned, however it is spelled.
* `readNumeral_number`, `readNumber_natural`: numbers.
-/
import LintBridge.Json.Scan
import LintBridge.Proofs.Json.Grammar
import LintBridge.Proofs.Json.Turns
import Mathlib.Data.List.Forall2
import Mathlib.Data.List.TakeWhile

namespace LintBridge.Json

/-! ## White space -/

lemma isSpace_of_gap {gap : List Char} (h : Gap gap) : ∀ c ∈ gap, isSpace c = true := by
  intro c hc
  have hmem := h c hc
  simp only [List.mem_cons, List.not_mem_nil, or_false] at hmem
  rcases hmem with rfl | rfl | rfl | rfl <;> rfl

lemma skipSpaces_gap {gap : List Char} (h : Gap gap) (s : List Char) :
    skipSpaces (gap ++ s) = skipSpaces s := by
  rw [skipSpaces, skipSpaces, List.dropWhile_append, if_pos]
  rw [List.dropWhile_eq_nil_iff.2 (isSpace_of_gap h)]
  rfl

@[simp] lemma skipSpaces_cons {c : Char} (h : isSpace c = false) (s : List Char) :
    skipSpaces (c :: s) = c :: s := by
  rw [skipSpaces, List.dropWhile_cons, if_neg (by simp [h])]

lemma gap_nil : Gap [] := List.forall_mem_nil _

/-! ## What follows a value -/

/-- The characters that carry a number on. -/
def carriesOn (c : Char) : Bool := isDigit c || c = '.' || c = 'e' || c = 'E'

/-- A text that does not carry a number on. -/
def Ends (s : List Char) : Prop := ∀ c ∈ s.head?, carriesOn c = false

lemma ends_nil : Ends [] := fun _ hc => by cases hc

lemma ends_cons {c : Char} (h : carriesOn c = false) (s : List Char) : Ends (c :: s) := by
  rintro d ⟨⟩
  exact h

lemma ends_gap {gap s : List Char} (hgap : Gap gap) (hs : Ends s) : Ends (gap ++ s) := by
  cases gap with
  | nil => exact hs
  | cons c gap =>
    refine ends_cons ?_ _
    have hc := hgap c List.mem_cons_self
    simp only [List.mem_cons, List.not_mem_nil, or_false] at hc
    rcases hc with rfl | rfl | rfl | rfl <;> rfl

lemma MorePieces.ends {close : Char} {pieces : List (List Char)} {text : List Char}
    (h : MorePieces close pieces text) (hclose : carriesOn close = false) (rest : List Char) :
    Ends (text ++ rest) := by
  cases h with
  | close hgap =>
    rw [List.append_assoc]
    exact ends_gap hgap (ends_cons hclose rest)
  | more hgap hgap' h =>
    rw [List.append_assoc]
    exact ends_gap hgap (ends_cons rfl _)

/-! ## Strings -/

lemma hexValue?_of_hexDigit {n : Nat} {c : Char} (h : HexDigit n c) : hexValue? c = some n := by
  have hdecimal : ∀ m < 10, hexValue? (Char.ofNat ('0'.toNat + m)) = some m := by decide
  have hsmall : ∀ m < 6, hexValue? (Char.ofNat ('a'.toNat + m)) = some (10 + m) := by decide
  have hcapital : ∀ m < 6, hexValue? (Char.ofNat ('A'.toNat + m)) = some (10 + m) := by decide
  cases h with
  | decimal h => exact hdecimal _ h
  | small h => exact hsmall _ h
  | capital h => exact hcapital _ h

lemma readHex4_of_codeUnit {n : Nat} {ds : List Char} (h : CodeUnit n ds) (rest : List Char) :
    readHex4 (ds ++ rest) = .ok (n, rest) := by
  cases h with
  | digits hw hx hy hz =>
    simp [readHex4, hexValue4?, hexValue?_of_hexDigit hw, hexValue?_of_hexDigit hx,
      hexValue?_of_hexDigit hy, hexValue?_of_hexDigit hz]

lemma simpleEscape?_of_mem {l c : Char} (h : (l, c) ∈ escapeLetters) :
    simpleEscape? l = some c := by
  have hall : ∀ e ∈ escapeLetters, simpleEscape? e.1 = some e.2 := by decide
  exact hall (l, c) h

/-- No letter of an escape is the one that introduces a code unit. -/
lemma ne_u_of_mem {l c : Char} (h : (l, c) ∈ escapeLetters) : l ≠ 'u' := by
  rintro rfl
  exact absurd (simpleEscape?_of_mem h) (by simp [simpleEscape?])

/-- No character is half a surrogate pair. -/
lemma not_surrogate (c : Char) :
    isLowSurrogate c.toNat = false ∧ isHighSurrogate c.toNat = false := by
  have hvalid : c.toNat < 0xD800 ∨ 0xDFFF < c.toNat ∧ c.toNat < 0x110000 := c.valid
  simp only [isLowSurrogate, isHighSurrogate, Bool.and_eq_false_iff, decide_eq_false_iff_not]
  omega

lemma readUnicodeEscape_unit {c : Char} {ds : List Char} (h : CodeUnit c.toNat ds)
    (rest : List Char) : readUnicodeEscape (ds ++ rest) = .ok (c, rest) := by
  obtain ⟨hlow, hhigh⟩ := not_surrogate c
  simp [readUnicodeEscape, readHex4_of_codeUnit h, hlow, hhigh, bind, Except.bind]

/-- The halves of a surrogate pair are told apart, and together they are the code point. -/
lemma surrogates_of_pair {c : Char} {high low : Nat} (hhigh : high < 0x400) (hlow : low < 0x400)
    (hc : c.toNat = 0x10000 + high * 0x400 + low) :
    isLowSurrogate (0xD800 + high) = false ∧ isHighSurrogate (0xD800 + high) = true ∧
      isLowSurrogate (0xDC00 + low) = true ∧
      pairValue (0xD800 + high) (0xDC00 + low) = c.toNat := by
  simp only [isLowSurrogate, isHighSurrogate, pairValue, Bool.and_eq_false_iff, Bool.and_eq_true,
    decide_eq_false_iff_not, decide_eq_true_eq]
  omega

lemma readUnicodeEscape_pair {c : Char} {high low : Nat} {ds es : List Char} (hhigh : high < 0x400)
    (hlow : low < 0x400) (hc : c.toNat = 0x10000 + high * 0x400 + low)
    (hds : CodeUnit (0xD800 + high) ds) (hes : CodeUnit (0xDC00 + low) es) (rest : List Char) :
    readUnicodeEscape (ds ++ '\\' :: 'u' :: (es ++ rest)) = .ok (c, rest) := by
  obtain ⟨hnotLow, hisHigh, hisLow, hvalue⟩ := surrogates_of_pair hhigh hlow hc
  simp [readUnicodeEscape, readHex4_of_codeUnit hds, readHex4_of_codeUnit hes, hnotLow, hisHigh,
    hisLow, hvalue, bind, Except.bind]

/-- One turn reads one character, however it is spelled. -/
lemma stringTurn_spelled {c : Char} {text : List Char} (h : CharSpelling c text)
    (read rest : List Char) :
    stringTurn read (text ++ rest) = .ok (.again (c :: read) rest) := by
  cases h with
  | bare h =>
    obtain ⟨hge, hquote, hslash⟩ := h
    have hlt : ¬c.toNat < 32 := by omega
    simp [stringTurn, hlt]
  | @letter l c h =>
    have hread : readEscape (l :: rest) = .ok (c, rest) := by
      rw [readEscape, simpleEscape?_of_mem h]
      exact ne_u_of_mem h
    simp [stringTurn, hread]
  | unit h =>
    simp [stringTurn, readEscape, readUnicodeEscape_unit h]
  | pair hhigh hlow hc hds hes =>
    simp [stringTurn, readEscape, readUnicodeEscape_pair hhigh hlow hc hds hes]

lemma CharSpelling.ne_nil {c : Char} {text : List Char} (h : CharSpelling c text) : text ≠ [] := by
  cases h <;> simp

lemma stringTurn_leads {cs : List Char} {parts : List (List Char)}
    (h : List.Forall₂ CharSpelling cs parts) (read rest : List Char) :
    Turn.Leads stringTurn (.again read (parts.flatten ++ '"' :: rest))
      (.done (String.ofList (read.reverse ++ cs)) rest) := by
  induction h generalizing read with
  | nil => exact .single (by simp [stringTurn]) (by simp)
  | @cons c part cs parts hc _ ih =>
    have hpos := List.length_pos_of_ne_nil hc.ne_nil
    have hturn := stringTurn_spelled hc read (parts.flatten ++ '"' :: rest)
    rw [List.flatten_cons, List.append_assoc]
    refine .step hturn (by simp; omega) ?_
    simpa using ih (c :: read)

/-- A string is read, however it is spelled. -/
lemma stringBody_spelled {s : String} {text : List Char} (h : StringSpelling s text) :
    ∃ body, text = '"' :: body ∧ ∀ rest, stringBody (body ++ rest) = .ok (s, rest) := by
  obtain ⟨parts, hparts, rfl⟩ := h
  refine ⟨_, rfl, fun rest => ?_⟩
  rw [List.append_assoc, stringBody]
  have hleads := stringTurn_leads hparts [] rest
  simp only [List.reverse_nil, List.nil_append, String.ofList_toList] at hleads
  exact repeatedly_of_leads hleads

/-! ## Numbers -/

lemma isDigit_iff {c : Char} : isDigit c = true ↔ Digit c := by
  simp [isDigit, Digit]

/-- A text that does not carry a row of digits on. -/
def EndsDigits (s : List Char) : Prop := ∀ c ∈ s.head?, isDigit c = false

lemma Ends.digits {s : List Char} (h : Ends s) : EndsDigits s := by
  intro c hc
  have hcarries := h c hc
  simp only [carriesOn, Bool.or_eq_false_iff] at hcarries
  exact hcarries.1.1.1

lemma endsDigits_exponent {text rest : List Char} (h : IsExponent text) (hrest : Ends rest) :
    EndsDigits (text ++ rest) := by
  cases h with
  | none => exact hrest.digits
  | digits he hsign h =>
    rintro c ⟨⟩
    simp only [List.mem_cons, List.not_mem_nil, or_false] at he
    rcases he with rfl | rfl <;> rfl

lemma endsDigits_fraction {text rest : List Char} (h : IsFraction text) (hrest : EndsDigits rest) :
    EndsDigits (text ++ rest) := by
  cases h with
  | none => exact hrest
  | digits h =>
    rintro c ⟨⟩
    rfl

lemma takeWhile_digits {ds rest : List Char} (h : ∀ d ∈ ds, Digit d) (hrest : EndsDigits rest) :
    (ds ++ rest).takeWhile isDigit = ds ∧ (ds ++ rest).dropWhile isDigit = rest := by
  have hds : ∀ d ∈ ds, isDigit d = true := fun d hd => isDigit_iff.2 (h d hd)
  rw [List.takeWhile_append_of_pos hds, List.dropWhile_append_of_pos hds]
  cases rest with
  | nil => simp
  | cons c rest => simp [hrest c rfl]

lemma readDigits_digits {ds rest : List Char} (h : Digits ds) (hrest : EndsDigits rest) :
    readDigits (ds ++ rest) = .ok (ds, rest) := by
  obtain ⟨htake, hdrop⟩ := takeWhile_digits h.2 hrest
  rw [readDigits, htake, hdrop]
  cases ds with
  | nil => exact absurd rfl h.1
  | cons d ds => rfl

lemma readWhole_whole {ds rest : List Char} (h : IsWhole ds) (hrest : EndsDigits rest) :
    readWhole (ds ++ rest) = .ok (ds, rest) := by
  obtain ⟨⟨hne, hall⟩, rfl | hhead⟩ := h
  · cases rest with
    | nil => rfl
    | cons c rest => simp [readWhole, hrest c rfl]
  · cases ds with
    | nil => exact absurd rfl hne
    | cons d ds =>
      rw [List.head?_cons, Ne, Option.some_inj] at hhead
      obtain ⟨htake, hdrop⟩ :=
        takeWhile_digits (fun e he => hall e (List.mem_cons_of_mem d he)) hrest
      have hd := isDigit_iff.2 (hall d List.mem_cons_self)
      simp [readWhole, hd, htake, hdrop]

lemma readFraction_none {s : List Char} (h : s.head? ≠ some '.') :
    readFraction s = .ok (none, s) := by
  unfold readFraction
  split
  · simp at h
  · rfl

lemma readFraction_fraction {text rest : List Char} (h : IsFraction text)
    (hrest : EndsDigits rest) (hpoint : rest.head? ≠ some '.') :
    ∃ x, readFraction (text ++ rest) = .ok (x, rest) := by
  cases h with
  | none => exact ⟨none, readFraction_none hpoint⟩
  | @digits ds h =>
    exact ⟨some ds, by simp [readFraction, readDigits_digits h hrest, bind, Except.bind]⟩

lemma readExponent_none {rest : List Char} (h : Ends rest) :
    readExponent rest = .ok (none, rest) := by
  cases rest with
  | nil => rfl
  | cons c rest =>
    have hcarries := h c rfl
    simp only [carriesOn, Bool.or_eq_false_iff, decide_eq_false_iff_not] at hcarries
    simp [readExponent, hcarries.1.2, hcarries.2]

/-- The sign of an exponent, if there is one, is told from its first digit. -/
lemma readExponent_exponent {text rest : List Char} (h : IsExponent text) (hrest : Ends rest) :
    ∃ x, readExponent (text ++ rest) = .ok (x, rest) := by
  cases h with
  | none => exact ⟨none, readExponent_none hrest⟩
  | @digits e sign ds he hsign h =>
    have hread := readDigits_digits h hrest.digits
    have he' : e = 'e' ∨ e = 'E' := by simpa using he
    simp only [List.mem_cons, List.not_mem_nil, or_false] at hsign
    rcases hsign with rfl | rfl | rfl
    · obtain ⟨d, ds, rfl⟩ := List.exists_cons_of_ne_nil h.1
      have hd := h.2 d List.mem_cons_self
      have hplus : d ≠ '+' := by
        rintro rfl
        exact absurd hd (by decide)
      have hminus : d ≠ '-' := by
        rintro rfl
        exact absurd hd (by decide)
      refine ⟨some (false, d :: ds), ?_⟩
      simp only [List.cons_append, List.nil_append] at hread ⊢
      simp [readExponent, he', hread, hplus, hminus, bind, Except.bind]
    · exact ⟨some (false, ds), by simp [readExponent, he', hread, bind, Except.bind]⟩
    · exact ⟨some (true, ds), by simp [readExponent, he', hread, bind, Except.bind]⟩

lemma head?_exponent {text rest : List Char} (h : IsExponent text) (hrest : Ends rest) :
    (text ++ rest).head? ≠ some '.' := by
  cases h with
  | none =>
    intro hc
    exact absurd (hrest '.' hc) (by decide)
  | digits he hsign h =>
    simp only [List.mem_cons, List.not_mem_nil, or_false] at he
    rcases he with rfl | rfl <;> simp

/-- A number without a sign is told from its first digit. -/
lemma IsWhole.exists_cons {ds : List Char} (h : IsWhole ds) :
    ∃ d ds', ds = d :: ds' ∧ Digit d ∧ d ≠ '-' := by
  obtain ⟨d, ds', rfl⟩ := List.exists_cons_of_ne_nil h.1.1
  have hd := h.1.2 d List.mem_cons_self
  refine ⟨d, ds', rfl, hd, ?_⟩
  rintro rfl
  exact absurd hd (by decide)

/-- A number is read to its end. -/
lemma readNumeral_number {text rest : List Char} (h : IsNumber text) (hrest : Ends rest) :
    ∃ x, readNumeral (text ++ rest) = .ok (x, rest) := by
  cases h with
  | @parts sign whole fraction exponent hsign hwhole hfraction hexponent =>
    have hdigits := endsDigits_exponent hexponent hrest
    have hread := readWhole_whole hwhole (endsDigits_fraction hfraction hdigits)
    obtain ⟨f, hf⟩ := readFraction_fraction hfraction hdigits (head?_exponent hexponent hrest)
    obtain ⟨e, he⟩ := readExponent_exponent hexponent hrest
    simp only [List.mem_cons, List.not_mem_nil, or_false] at hsign
    rcases hsign with rfl | rfl
    · obtain ⟨d, ds, rfl, -, hminus⟩ := hwhole.exists_cons
      refine ⟨⟨false, d :: ds, f, e⟩, ?_⟩
      simp only [List.cons_append, List.append_assoc, List.nil_append] at hread ⊢
      simp [readNumeral, hminus, hread, hf, he, bind, Except.bind]
    · refine ⟨⟨true, whole, f, e⟩, ?_⟩
      simp only [List.cons_append, List.append_assoc, List.nil_append] at hread ⊢
      simp [readNumeral, hread, hf, he, bind, Except.bind]

lemma digitsValue_toDigits (n : Nat) : digitsValue (Nat.toDigits 10 n) = n := by
  have h := Nat.ofDigitChars_toDigits (b := 10) (n := n) (by decide) (by decide)
  simpa [Nat.ofDigitChars, digitsValue, digitValue, Nat.mul_comm] using h

/-- A natural number is written without zeros in front. -/
lemma isWhole_toDigits (n : Nat) : IsWhole (Nat.toDigits 10 n) := by
  refine ⟨⟨Nat.toDigits_ne_nil, fun d hd => ?_⟩, ?_⟩
  · have hdigit := Nat.isDigit_of_mem_toDigits (by decide) (by decide) hd
    simpa [Char.isDigit, Digit, Char.le_def] using hdigit
  · rcases Nat.eq_zero_or_pos n with rfl | hpos
    · exact .inl rfl
    · right
      induction n using Nat.strong_induction_on with
      | _ n ih =>
        rcases Nat.lt_or_ge n 10 with hlt | hge
        · have hall : ∀ m < 10, 0 < m → m.digitChar ≠ '0' := by decide
          rw [Nat.toDigits_of_lt_base hlt, List.head?_cons, Ne, Option.some_inj]
          exact hall n hlt hpos
        · have hquot := ih (n / 10) (by omega) (by omega)
          rw [Nat.toDigits_of_base_le (by decide) hge]
          rwa [List.head?_append_of_ne_nil _ Nat.toDigits_ne_nil]

lemma readNumber_natural {n : Nat} {rest : List Char} (hn : n < Nat.pow 2 64) (hrest : Ends rest) :
    readNumber (Nat.toDigits 10 n ++ rest) = .ok (.natural n, rest) := by
  have hread := readWhole_whole (isWhole_toDigits n) hrest.digits
  obtain ⟨d, ds, hds, -, hminus⟩ := (isWhole_toDigits n).exists_cons
  have hpoint : rest.head? ≠ some '.' := by
    intro hc
    exact absurd (hrest '.' hc) (by decide)
  have hnumeral : readNumeral (Nat.toDigits 10 n ++ rest) =
      .ok (⟨false, Nat.toDigits 10 n, none, none⟩, rest) := by
    rw [hds] at hread ⊢
    simp only [List.cons_append] at hread ⊢
    simp [readNumeral, hminus, hread, readFraction_none hpoint, readExponent_none hrest, bind,
      Except.bind]
  simp [readNumber, hnumeral, Numeral.number?, digitsValue_toDigits, hn, bind, Except.bind]

end LintBridge.Json
