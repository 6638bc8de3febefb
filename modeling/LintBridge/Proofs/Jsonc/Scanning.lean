/-
# Scanning the tokens of plain JSON

Commented JSON has a scanner of its own.  On the tokens of a text without comments it does what the
grammar of JSON says: each token is scanned to its end, and what follows is left.

* `Delimits`: the texts that end a number or a literal.
* `Spells`: the texts of the tokens, in front of a given text.
* `nextToken_spelled`: the first token of a text.
-/
import LintBridge.Jsonc.Token
import LintBridge.Proofs.Json.Scanning

namespace LintBridge.Jsonc

open Json (CharSpelling CodeUnit Digit StringSpelling)

/-! ## White space -/

/-- Where no comment can start, blank characters are passed over. -/
lemma skipGap_cons {c : Char} (h : c ≠ '/') (s : List Char) :
    skipGap .outside (c :: s) =
      if Text.isBlank c then skipGap .outside s else .ok (c :: s) := by
  rw [skipGap] <;> exact fun _ hc => absurd hc h

lemma skipGap_gap {gap : List Char} (h : Json.Gap gap) (s : List Char) :
    skipGap .outside (gap ++ s) = skipGap .outside s := by
  have hblank : [' ', '\n', '\t', '\r'].all (fun c => c ≠ '/' && Text.isBlank c) = true := by decide
  induction gap with
  | nil => rfl
  | cons c gap ih =>
    have hc := List.all_eq_true.1 hblank c (h c List.mem_cons_self)
    rw [Bool.and_eq_true, decide_eq_true_eq] at hc
    rw [List.cons_append, skipGap_cons hc.1, if_pos hc.2]
    exact ih fun d hd => h d (List.mem_cons_of_mem c hd)

/-! ## What follows a token -/

/-- The characters that can follow a value in a JSON text. -/
def delimiters : List Char := [' ', '\n', '\t', '\r', ',', ':', ']', '}']

/-- A text that ends a number or a literal in front of it. -/
def Delimits (s : List Char) : Prop := ∀ c ∈ s.head?, c ∈ delimiters

lemma delimits_nil : Delimits [] := fun _ hc => by cases hc

lemma delimits_cons {c : Char} (h : c ∈ delimiters) (s : List Char) : Delimits (c :: s) := by
  rintro d ⟨⟩
  exact h

lemma delimits_gap {gap s : List Char} (hgap : Json.Gap gap) (hs : Delimits s) :
    Delimits (gap ++ s) := by
  cases gap with
  | nil => exact hs
  | cons c gap => exact delimits_cons (List.mem_append_left _ (hgap c List.mem_cons_self)) _

/-- A number is not carried on. -/
lemma Delimits.ends {s : List Char} (h : Delimits s) : Json.Ends s := by
  have hall : ∀ c ∈ delimiters, Json.carriesOn c = false := by
    simp [delimiters, Json.carriesOn, Json.isDigit]
  exact fun c hc => hall c (h c hc)

/-- A literal is not carried on to a longer word. -/
lemma Delimits.not_alphanumeric {c : Char} {s : List Char} (h : Delimits (c :: s)) :
    Text.isAlphanumeric c = false := by
  have hall : delimiters.all (fun c => !Text.isAlphanumeric c) = true := by decide +kernel
  simpa using List.all_eq_true.1 hall c (h c rfl)

/-! ## Strings -/

lemma unicodeDigits_codeUnit {n : Nat} {ds : List Char} (h : CodeUnit n ds) (rest : List Char) :
    ∃ digits, unicodeDigits (ds ++ rest) = .ok ((n, digits), rest) := by
  cases h with
  | @digits a b c d w x y z hw hx hy hz =>
    refine ⟨String.ofList [w, x, y, z], ?_⟩
    simp [unicodeDigits, Json.hexValue4?, Json.hexValue?_of_hexDigit hw,
      Json.hexValue?_of_hexDigit hx, Json.hexValue?_of_hexDigit hy, Json.hexValue?_of_hexDigit hz]

/-- One character is scanned, however it is spelled, if the budget has one for it. -/
lemma stringBody_char {c : Char} {text : List Char} (h : CharSpelling c text) (b : Char)
    (budget read rest : List Char) :
    stringBody '"' (b :: budget) read (text ++ rest) = stringBody '"' budget (c :: read) rest := by
  have hescape {s : List Char} (hs : escape '"' s = .ok (c, rest)) :
      stringBody '"' (b :: budget) read ('\\' :: s) = stringBody '"' budget (c :: read) rest := by
    simp [stringBody, hs]
  cases h with
  | bare h =>
    obtain ⟨-, hquote, hslash⟩ := h
    simp [stringBody, hquote, hslash]
  | @letter l _ h =>
    have hall : ∀ e ∈ Json.escapeLetters, ∀ s, escape '"' (e.1 :: s) = .ok (e.2, s) := by
      simp [Json.escapeLetters, escape, Json.simpleEscape?]
    exact hescape (hall _ h rest)
  | @unit _ ds h =>
    obtain ⟨digits, hdigits⟩ := unicodeDigits_codeUnit h rest
    obtain ⟨hlow, hhigh⟩ := Json.not_surrogate c
    refine hescape ?_
    simp [escape, unicodeEscape, hdigits, hlow, hhigh]
  | @pair _ high low ds es hhigh hlow hc hds hes =>
    obtain ⟨_, hfirst⟩ := unicodeDigits_codeUnit hds ('\\' :: 'u' :: (es ++ rest))
    obtain ⟨_, hsecond⟩ := unicodeDigits_codeUnit hes rest
    obtain ⟨hnotLow, hisHigh, hisLow, hvalue⟩ := Json.surrogates_of_pair hhigh hlow hc
    refine hescape ?_
    simp [escape, unicodeEscape, hfirst, hsecond, hnotLow, hisHigh, hisLow, hvalue]

lemma stringBody_spelled {cs : List Char} {parts : List (List Char)}
    (h : List.Forall₂ CharSpelling cs parts) {budget : List Char}
    (hbudget : parts.flatten.length < budget.length) (read rest : List Char) :
    stringBody '"' budget read (parts.flatten ++ '"' :: rest) =
      .ok (String.ofList (read.reverse ++ cs), rest) := by
  -- on the characters: each takes one off the budget, and at least one off the text
  induction h generalizing budget read with
  | nil =>
    match budget, hbudget with
    | b :: budget, _ => simp [stringBody]
  | @cons c part cs parts hc _ ih =>
    have hpos := List.length_pos_of_ne_nil hc.ne_nil
    match budget, hbudget with
    | b :: budget, hbudget =>
      rw [List.flatten_cons, List.length_append, List.length_cons] at hbudget
      rw [List.flatten_cons, List.append_assoc, stringBody_char hc, ih (by omega)]
      simp

/-! ## Numbers -/

/-- What delimits a number has neither a fraction nor an exponent. -/
lemma numberTail_delimits {rest : List Char} (h : Delimits rest) (whole : List Char) :
    numberTail whole rest = .ok (whole, rest) := by
  have hall : ∀ c ∈ delimiters, c ≠ '.' ∧ c ≠ 'e' ∧ c ≠ 'E' := by simp [delimiters]
  cases rest with
  | nil => simp [numberTail, fraction, exponent, bind, Except.bind]
  | cons c rest =>
    obtain ⟨hpoint, hsmall, hcapital⟩ := hall c (h c rfl)
    simp [numberTail, fraction, exponent, hpoint, hsmall, hcapital, bind, Except.bind]

lemma unsigned_whole {ds rest : List Char} (h : Json.IsWhole ds) (hrest : Delimits rest) :
    unsigned (ds ++ rest) = .ok (ds, rest) := by
  obtain ⟨⟨hne, hall⟩, rfl | hhead⟩ := h
  · cases rest with
    | nil => rfl
    | cons c rest =>
      have hx : ∀ c ∈ delimiters, c ≠ 'x' ∧ c ≠ 'X' := by simp [delimiters]
      obtain ⟨hsmall, hcapital⟩ := hx c (hrest c rfl)
      simp [unsigned, hsmall, hcapital, numberTail_delimits hrest]
  · obtain ⟨htake, hdrop⟩ := Json.takeWhile_digits hall hrest.ends.digits
    match ds, hne with
    | d :: ds, _ =>
      have hzero : d ≠ '0' := fun hd => hhead (congrArg some hd)
      rw [List.cons_append] at htake hdrop ⊢
      simp [unsigned, hzero, digits, htake, hdrop, numberTail_delimits hrest, bind, Except.bind]

/-- A digit is no white space. -/
lemma not_blank_of_digit {d : Char} (h : Digit d) : Text.isBlank d = false := by
  have hlow : 48 ≤ d.toNat := h.1
  have hhigh : d.toNat ≤ 57 := h.2
  have hall : ∀ r ∈ Text.blankRanges, r.2 < 48 ∨ 57 < r.1 := by decide
  rw [Bool.eq_false_iff]
  intro hblank
  obtain ⟨r, hr, hfrom, hto⟩ := Text.inRanges_iff.1 hblank
  rcases hall r hr with hbelow | habove <;> omega

lemma tokenFrom_whole {d : Char} {ds rest : List Char} (h : Json.IsWhole (d :: ds))
    (hrest : Delimits rest) : tokenFrom d (ds ++ rest) = .ok (.number (d :: ds), rest) := by
  have hdigit : Digit d := h.1.2 d List.mem_cons_self
  have hne (c : Char) (hc : ¬Digit c) : d ≠ c := fun heq => hc (heq ▸ hdigit)
  have hnumber : number (d :: (ds ++ rest)) = .ok (d :: ds, rest) := by
    rw [number]
    · exact unsigned_whole h hrest
    · exact fun _ heq => hne '-' (by decide) (List.cons.inj heq).1
    · exact fun _ heq => hne '+' (by decide) (List.cons.inj heq).1
  rw [tokenFrom]
  · have hisDigit := Json.isDigit_iff.2 hdigit
    simp [hne '"' (by decide), hne '\x27' (by decide), hisDigit, hnumber, Except.map]
  all_goals exact hne _ (by decide)

/-! ## Literals -/

lemma afterLiteral_self (literal : List Char) {rest : List Char} (h : Delimits rest) :
    afterLiteral literal (literal ++ rest) = some rest := by
  induction literal with
  | nil =>
    cases rest with
    | nil => rfl
    | cons c rest => simp [afterLiteral, h.not_alphanumeric]
  | cons l literal ih => simpa [afterLiteral] using ih

lemma afterLiteral_of_ne {l c : Char} (h : l ≠ c) (ls s : List Char) :
    afterLiteral (l :: ls) (c :: s) = none := if_neg h

/-- A literal is told from the others by its first letter. -/
lemma literalOrWord_literal (l : List Char) (t : Token) (hl : (l, t) ∈ literals) {rest : List Char}
    (h : Delimits rest) : literalOrWord (l ++ rest) = .ok (t, rest) := by
  have hself := afterLiteral_self l h
  simp only [literals, List.mem_cons, Prod.mk.injEq, List.not_mem_nil, or_false] at hl
  rcases hl with ⟨rfl, rfl⟩ | ⟨rfl, rfl⟩ | ⟨rfl, rfl⟩ <;>
    simp only [List.cons_append, List.nil_append] at hself ⊢ <;>
    simp only [literalOrWord, literals, List.findSome?_cons, afterLiteral_of_ne, ne_eq,
      Char.reduceEq, not_false_eq_true, hself, Option.map_none, Option.map_some]

/-! ## Tokens -/

/-- The texts of the tokens that a JSON text has, in front of the given text. -/
inductive Spells (rest : List Char) : Token → List Char → Prop
  | openBrace : Spells rest .openBrace ['{']
  | closeBrace : Spells rest .closeBrace ['}']
  | openBracket : Spells rest .openBracket ['[']
  | closeBracket : Spells rest .closeBracket [']']
  | comma : Spells rest .comma [',']
  | colon : Spells rest .colon [':']
  | string {s : String} {text : List Char} (h : StringSpelling s text) :
      Spells rest (.string s) text
  | number {text : List Char} (h : Json.IsWhole text) (hrest : Delimits rest) :
      Spells rest (.number text) text
  | yes (hrest : Delimits rest) : Spells rest (.bool true) ['t', 'r', 'u', 'e']
  | no (hrest : Delimits rest) : Spells rest (.bool false) ['f', 'a', 'l', 's', 'e']
  | null (hrest : Delimits rest) : Spells rest .null ['n', 'u', 'l', 'l']

/-- A token is scanned to its end, and it starts neither with white space nor with a comment. -/
lemma Spells.tokenFrom {rest text : List Char} {t : Token} (h : Spells rest t text) :
    ∃ c s, text = c :: s ∧ c ≠ '/' ∧ Text.isBlank c = false ∧
      Jsonc.tokenFrom c (s ++ rest) = .ok (t, rest) := by
  cases h with
  | openBrace => exact ⟨'{', [], rfl, by decide, by decide, rfl⟩
  | closeBrace => exact ⟨'}', [], rfl, by decide, by decide, rfl⟩
  | openBracket => exact ⟨'[', [], rfl, by decide, by decide, rfl⟩
  | closeBracket => exact ⟨']', [], rfl, by decide, by decide, rfl⟩
  | comma => exact ⟨',', [], rfl, by decide, by decide, rfl⟩
  | colon => exact ⟨':', [], rfl, by decide, by decide, rfl⟩
  | string h =>
    obtain ⟨parts, hparts, rfl⟩ := h
    refine ⟨'"', _, rfl, by decide, by decide, ?_⟩
    have hlong : parts.flatten.length < (parts.flatten ++ '"' :: rest).length := by simp
    have hbody := stringBody_spelled hparts hlong [] rest
    simp [Jsonc.tokenFrom, hbody, Except.map]
  | number h hrest =>
    obtain ⟨d, ds, rfl, hd, -⟩ := h.exists_cons
    refine ⟨d, ds, rfl, ?_, not_blank_of_digit hd, tokenFrom_whole h hrest⟩
    rintro rfl
    exact absurd hd (by decide)
  | yes hrest =>
    have hword := literalOrWord_literal ['t', 'r', 'u', 'e'] (.bool true) (by decide) hrest
    exact ⟨'t', _, rfl, by decide, by decide, hword⟩
  | no hrest =>
    have hword := literalOrWord_literal ['f', 'a', 'l', 's', 'e'] (.bool false) (by decide) hrest
    exact ⟨'f', _, rfl, by decide, by decide, hword⟩
  | null hrest =>
    have hword := literalOrWord_literal ['n', 'u', 'l', 'l'] .null (by decide) hrest
    exact ⟨'n', _, rfl, by decide, by decide, hword⟩

lemma Spells.length_pos {rest text : List Char} {t : Token} (h : Spells rest t text) :
    0 < text.length := by
  obtain ⟨c, s, rfl, -⟩ := h.tokenFrom
  exact Nat.succ_pos _

/-- **The first token of a text is scanned**, whatever white space is in front of it, and what
follows it is left. -/
lemma nextToken_spelled {gap text rest : List Char} {t : Token} (hgap : Json.Gap gap)
    (h : Spells rest t text) : nextToken (gap ++ (text ++ rest)) = .ok (some (t, rest)) := by
  obtain ⟨c, s, rfl, hslash, hblank, htoken⟩ := h.tokenFrom
  have hskip : skipGap .outside (gap ++ (c :: s ++ rest)) = .ok (c :: (s ++ rest)) := by
    rw [skipGap_gap hgap, List.cons_append, skipGap_cons hslash, hblank]
    rfl
  rw [nextToken, hskip]
  simp only [htoken]
  rfl

/-- White space alone has no token. -/
lemma nextToken_gap {gap : List Char} (hgap : Json.Gap gap) : nextToken gap = .ok none := by
  have hskip := skipGap_gap hgap []
  rw [List.append_nil] at hskip
  rw [nextToken, hskip]
  rfl

end LintBridge.Jsonc
