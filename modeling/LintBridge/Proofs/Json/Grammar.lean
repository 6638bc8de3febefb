/-
# The grammar of JSON texts

What a JSON text looks like is said here without a reader: which texts spell a string, how items and
members are put together, and which texts are values at all.

* `CharSpelling`, `StringSpelling`: the texts that spell a character inside a string, and a string.
* `ArrayText`, `ObjectText`: items and members with commas, brackets and white space.
* `IsValue`: the texts that are values by their syntax, whether or not they stand for anything:
  halves of surrogate pairs and numbers of any size are among them.
* `Written`: the texts of a value.
* `RecordText`: the texts of a record, an object in which the order of the members is free, some may
  be left out, and others may be added.
-/
import LintBridge.Json.Value
import Mathlib.Data.List.Forall2
import Mathlib.Tactic.Common

namespace LintBridge.Json

/-- An element on the right of two lists that are related item by item has one on the left. -/
lemma exists_of_forall₂ {α β : Type} {R : α → β → Prop} {l : List α} {l' : List β}
    (h : List.Forall₂ R l l') {b : β} (hb : b ∈ l') : ∃ a ∈ l, R a b := by
  induction h with
  | nil => cases hb
  | @cons a b' l l' hab _ ih =>
    rcases List.mem_cons.1 hb with rfl | hb
    · exact ⟨a, List.mem_cons_self, hab⟩
    · obtain ⟨a', ha', hr⟩ := ih hb
      exact ⟨a', List.mem_cons_of_mem a ha', hr⟩

/-- White space between the tokens of a JSON text. -/
def Gap (gap : List Char) : Prop := ∀ c ∈ gap, c ∈ [' ', '\n', '\t', '\r']

/-! ## Strings -/

/-- The hexadecimal digits, small or capital, with their values. -/
inductive HexDigit : Nat → Char → Prop
  | decimal {n : Nat} (h : n < 10) : HexDigit n (Char.ofNat ('0'.toNat + n))
  | small {n : Nat} (h : n < 6) : HexDigit (10 + n) (Char.ofNat ('a'.toNat + n))
  | capital {n : Nat} (h : n < 6) : HexDigit (10 + n) (Char.ofNat ('A'.toNat + n))

/-- Four hexadecimal digits, with their value. -/
inductive CodeUnit : Nat → List Char → Prop
  | digits {a b c d : Nat} {w x y z : Char} (hw : HexDigit a w) (hx : HexDigit b x)
      (hy : HexDigit c y) (hz : HexDigit d z) :
      CodeUnit (((a * 16 + b) * 16 + c) * 16 + d) [w, x, y, z]

/-- The letters that may follow a backslash, with the characters they stand for. -/
def escapeLetters : List (Char × Char) :=
  [('"', '"'), ('\\', '\\'), ('/', '/'), ('b', '\x08'), ('f', '\x0c'), ('n', '\n'), ('r', '\r'),
    ('t', '\t')]

/-- Whether a character can stand in a string as it is. -/
def Bare (c : Char) : Prop := 32 ≤ c.toNat ∧ c ≠ '"' ∧ c ≠ '\\'

instance : DecidablePred Bare := fun _ => inferInstanceAs (Decidable (_ ∧ _))

/-- The texts that spell a character inside a string. -/
inductive CharSpelling : Char → List Char → Prop
  | bare {c : Char} (h : Bare c) : CharSpelling c [c]
  | letter {l c : Char} (h : (l, c) ∈ escapeLetters) : CharSpelling c ['\\', l]
  | unit {c : Char} {ds : List Char} (h : CodeUnit c.toNat ds) :
      CharSpelling c ('\\' :: 'u' :: ds)
  /-- A character beyond the code units is spelled by a surrogate pair. -/
  | pair {c : Char} {high low : Nat} {ds es : List Char} (hhigh : high < 0x400)
      (hlow : low < 0x400) (hc : c.toNat = 0x10000 + high * 0x400 + low)
      (hds : CodeUnit (0xD800 + high) ds) (hes : CodeUnit (0xDC00 + low) es) :
      CharSpelling c ('\\' :: 'u' :: (ds ++ '\\' :: 'u' :: es))

/-- The texts that spell a string. -/
def StringSpelling (s : String) (text : List Char) : Prop :=
  ∃ parts, List.Forall₂ CharSpelling s.toList parts ∧ text = '"' :: (parts.flatten ++ ['"'])

/-- The pieces of a string by its syntax: a code unit need not be part of a character. -/
inductive StringPiece : List Char → Prop
  | bare {c : Char} (h : Bare c) : StringPiece [c]
  | letter {l c : Char} (h : (l, c) ∈ escapeLetters) : StringPiece ['\\', l]
  | unit {n : Nat} {ds : List Char} (h : CodeUnit n ds) : StringPiece ('\\' :: 'u' :: ds)

/-- The texts that are strings by their syntax. -/
def IsString (text : List Char) : Prop :=
  ∃ parts : List (List Char),
    (∀ part ∈ parts, StringPiece part) ∧ text = '"' :: (parts.flatten ++ ['"'])

/-- The text of a character inside a string consists of pieces. -/
lemma CharSpelling.pieces {c : Char} {text : List Char} (h : CharSpelling c text) :
    ∃ parts : List (List Char), (∀ part ∈ parts, StringPiece part) ∧ text = parts.flatten := by
  cases h with
  | bare h => exact ⟨[_], List.forall_mem_singleton.2 (.bare h), rfl⟩
  | letter h => exact ⟨[_], List.forall_mem_singleton.2 (.letter h), rfl⟩
  | @unit _ ds h => exact ⟨['\\' :: 'u' :: ds], List.forall_mem_singleton.2 (.unit h), by simp⟩
  | @pair _ _ _ ds es _ _ _ hds hes =>
    refine ⟨['\\' :: 'u' :: ds, '\\' :: 'u' :: es], ?_, by simp⟩
    simpa using ⟨.unit hds, .unit hes⟩

/-- What spells a string is a string by its syntax. -/
lemma StringSpelling.isString {s : String} {text : List Char} (h : StringSpelling s text) :
    IsString text := by
  obtain ⟨texts, htexts, rfl⟩ := h
  have hparts : ∃ parts : List (List Char), (∀ part ∈ parts, StringPiece part) ∧
      texts.flatten = parts.flatten := by
    generalize s.toList = cs at htexts
    induction htexts with
    | nil => exact ⟨[], List.forall_mem_nil _, rfl⟩
    | cons hchar _ ih =>
      obtain ⟨first, hfirst, rfl⟩ := hchar.pieces
      obtain ⟨parts, hparts, heq⟩ := ih
      refine ⟨first ++ parts, ?_, by rw [List.flatten_cons, heq, List.flatten_append]⟩
      exact List.forall_mem_append.2 ⟨hfirst, hparts⟩
  obtain ⟨parts, hparts, heq⟩ := hparts
  exact ⟨parts, hparts, by rw [heq]⟩

/-! ## Numbers -/

/-- The decimal digits. -/
def Digit (c : Char) : Prop := '0' ≤ c ∧ c ≤ '9'

instance : DecidablePred Digit := fun _ => inferInstanceAs (Decidable (_ ∧ _))

/-- One or more digits. -/
def Digits (ds : List Char) : Prop := ds ≠ [] ∧ ∀ d ∈ ds, Digit d

/-- A part of a number before the point: there are no zeros in front. -/
def IsWhole (text : List Char) : Prop := Digits text ∧ (text = ['0'] ∨ text.head? ≠ some '0')

/-- A part of a number from the point on, which may be missing. -/
inductive IsFraction : List Char → Prop
  | none : IsFraction []
  | digits {ds : List Char} (h : Digits ds) : IsFraction ('.' :: ds)

/-- The exponent of a number, which may be missing. -/
inductive IsExponent : List Char → Prop
  | none : IsExponent []
  | digits {e : Char} {sign ds : List Char} (he : e ∈ ['e', 'E'])
      (hsign : sign ∈ [[], ['+'], ['-']]) (h : Digits ds) : IsExponent (e :: (sign ++ ds))

/-- The texts that are numbers. -/
inductive IsNumber : List Char → Prop
  | parts {sign whole fraction exponent : List Char} (hsign : sign ∈ [[], ['-']])
      (hwhole : IsWhole whole) (hfraction : IsFraction fraction) (hexponent : IsExponent exponent) :
      IsNumber (sign ++ (whole ++ (fraction ++ exponent)))

/-! ## Arrays and objects -/

/-- The pieces of an array or object after the first one, each after a comma, and the closing
bracket. -/
inductive MorePieces (close : Char) : List (List Char) → List Char → Prop
  | close {gap : List Char} (hgap : Gap gap) : MorePieces close [] (gap ++ [close])
  | more {gap gap' piece text : List Char} {pieces : List (List Char)} (hgap : Gap gap)
      (hgap' : Gap gap') (h : MorePieces close pieces text) :
      MorePieces close (piece :: pieces) (gap ++ ',' :: (gap' ++ (piece ++ text)))

/-- The pieces of an array or object, with commas between them, and the closing bracket. -/
inductive Pieces (close : Char) : List (List Char) → List Char → Prop
  | close {gap : List Char} (hgap : Gap gap) : Pieces close [] (gap ++ [close])
  | first {gap piece text : List Char} {pieces : List (List Char)} (hgap : Gap gap)
      (h : MorePieces close pieces text) : Pieces close (piece :: pieces) (gap ++ (piece ++ text))

lemma MorePieces.getLast? {close : Char} {pieces : List (List Char)} {text : List Char}
    (h : MorePieces close pieces text) : text.getLast? = some close := by
  induction h with
  | close _ => exact List.getLast?_concat
  | more _ _ _ ih => simp [List.getLast?_append, List.getLast?_cons, ih]

/-- The pieces end with the closing bracket. -/
lemma Pieces.getLast? {close : Char} {pieces : List (List Char)} {text : List Char}
    (h : Pieces close pieces text) : text.getLast? = some close := by
  cases h with
  | close _ => exact List.getLast?_concat
  | first _ h => simp [List.getLast?_append, h.getLast?]

/-- The texts of an array with the given texts of its items. -/
def ArrayText (items : List (List Char)) (text : List Char) : Prop :=
  ∃ body, Pieces ']' items body ∧ text = '[' :: body

/-- The texts of a member with the given texts of its key and its value. -/
def MemberText (key value text : List Char) : Prop :=
  ∃ gap gap', Gap gap ∧ Gap gap' ∧ text = key ++ (gap ++ ':' :: (gap' ++ value))

/-- The texts of an object with the given keys, which are spelled as `Key` says, and the given texts
of their values. -/
def ObjectText {κ : Type} (Key : κ → List Char → Prop) (members : List (κ × List Char))
    (text : List Char) : Prop :=
  ∃ pieces body,
    List.Forall₂ (fun m piece => ∃ key, Key m.1 key ∧ MemberText key m.2 piece) members pieces ∧
      Pieces '}' pieces body ∧ text = '{' :: body

/-- The texts that are values by their syntax. -/
inductive IsValue : List Char → Prop
  | null : IsValue ['n', 'u', 'l', 'l']
  | yes : IsValue ['t', 'r', 'u', 'e']
  | no : IsValue ['f', 'a', 'l', 's', 'e']
  | number {text : List Char} (h : IsNumber text) : IsValue text
  | string {text : List Char} (h : IsString text) : IsValue text
  | array {items : List (List Char)} {text : List Char} (hitems : ∀ v ∈ items, IsValue v)
      (h : ArrayText items text) : IsValue text
  | object {members : List (List Char × List Char)} {text : List Char}
      (hkeys : ∀ m ∈ members, IsString m.1) (hvalues : ∀ m ∈ members, IsValue m.2)
      (h : ObjectText Eq members text) : IsValue text

/-! ## The texts of a value -/

/-- The texts of a natural number. -/
def NaturalText (n : Nat) (text : List Char) : Prop := text = Nat.toDigits 10 n

/-- The texts of what may be missing: `null` if it is. -/
def OptionText {α : Type} (Text : α → List Char → Prop) : Option α → List Char → Prop
  | none, text => text = ['n', 'u', 'l', 'l']
  | some a, text => Text a text

/-- The texts of a list. -/
def ListText {α : Type} (Text : α → List Char → Prop) (l : List α) (text : List Char) : Prop :=
  ∃ items, List.Forall₂ Text l items ∧ ArrayText items text

/-- The texts of a value, whose numbers are natural and have 64 bits. -/
inductive Written : Json → List Char → Prop
  | null : Written .null ['n', 'u', 'l', 'l']
  | yes : Written (.bool true) ['t', 'r', 'u', 'e']
  | no : Written (.bool false) ['f', 'a', 'l', 's', 'e']
  | natural {n : Nat} {text : List Char} (hn : n < Nat.pow 2 64) (h : NaturalText n text) :
      Written (.ofNat n) text
  | string {s : String} {text : List Char} (h : StringSpelling s text) : Written (.string s) text
  | array {items : List (Json × List Char)} {text : List Char}
      (hitems : ∀ i ∈ items, Written i.1 i.2) (h : ArrayText (items.map Prod.snd) text) :
      Written (.array (items.map Prod.fst)) text
  | object {members : List ((String × Json) × List Char)} {text : List Char}
      (hvalues : ∀ m ∈ members, Written m.1.2 m.2)
      (h : ObjectText StringSpelling (members.map fun m => (m.1.1, m.2)) text) :
      Written (.object (members.map Prod.fst)) text

namespace Written

variable {text : List Char}

lemma of_natural {n : Nat} (h : Written (.ofNat n) text) : NaturalText n text := by
  cases h with
  | natural _ h => exact h

lemma of_string {s : String} (h : Written (.string s) text) : StringSpelling s text := by
  cases h with
  | string h => exact h

lemma of_array {l : List Json} (h : Written (.array l) text) : ListText Written l text := by
  cases h with
  | @array items _ hitems h =>
    refine ⟨items.map Prod.snd, ?_, h⟩
    rw [List.forall₂_map_left_iff, List.forall₂_map_right_iff, List.forall₂_same]
    exact hitems

lemma of_object {l : List (String × Json)} (h : Written (.object l) text) :
    ∃ texts, List.Forall₂ (fun m t => m.1 = t.1 ∧ Written m.2 t.2) l texts ∧
      ObjectText StringSpelling texts text := by
  cases h with
  | @object members _ hvalues h =>
    refine ⟨members.map fun m => (m.1.1, m.2), ?_, h⟩
    rw [List.forall₂_map_left_iff, List.forall₂_map_right_iff, List.forall₂_same]
    exact fun m hm => ⟨rfl, hvalues m hm⟩

end Written

/-! ## The texts of a record -/

/-- What is known of a member of a record. -/
structure Rule where
  /-- The name of the member. -/
  name : String
  /-- The texts of its value. -/
  Value : List Char → Prop
  /-- Whether it may be left out. -/
  Optional : Prop

/-- The members of an object keep the rules of a record: every member that has a rule keeps it and
stands there once, or not at all if it may be left out; members of other names have any value. -/
structure Follows (rules : List Rule) (members : List (String × List Char)) : Prop where
  value : ∀ rule ∈ rules, ∀ m ∈ members, m.1 = rule.name → rule.Value m.2
  once : ∀ rule ∈ rules, (members.map Prod.fst).count rule.name ≤ 1
  given : ∀ rule ∈ rules, rule.Optional ∨ rule.name ∈ members.map Prod.fst
  other : ∀ m ∈ members, (∀ rule ∈ rules, rule.name ≠ m.1) → IsValue m.2

/-- The texts of a record. -/
def RecordText (rules : List Rule) (text : List Char) : Prop :=
  ∃ members, ObjectText StringSpelling members text ∧ Follows rules members

end LintBridge.Json
