/-
# Both layouts are texts of the value

A value is written compactly or with a line for every item and member, and the grammar has both
texts for it.

* `stringSpelling_stringText`: a string is spelled with its escapes.
* `Legible`: both layouts are texts of the value, and the compact one has no control character;
  `Legible.array`, `Legible.object`: it is so if it is so for all items or members.
-/
import LintBridge.Json.Writer
import LintBridge.Proofs.Json.Scanning

namespace LintBridge.Json

/-! ## Strings -/

lemma hexDigit_hexDigit {n : Nat} (h : n < 16) : HexDigit n (hexDigit n) := by
  rcases Nat.lt_or_ge n 10 with hlt | hge
  · have hdecimal : ∀ m < 10, hexDigit m = Char.ofNat ('0'.toNat + m) := by decide
    rw [hdecimal n hlt]
    exact .decimal hlt
  · obtain ⟨m, rfl⟩ := Nat.exists_eq_add_of_le hge
    have hm : m < 6 := by omega
    have hsmall : ∀ m < 6, hexDigit (10 + m) = Char.ofNat ('a'.toNat + m) := by decide
    rw [hsmall m hm]
    exact .small hm

lemma codeUnit_control {n : Nat} (h : n < 32) :
    CodeUnit n ['0', '0', hexDigit (n / 16), hexDigit (n % 16)] := by
  have hunit := CodeUnit.digits (.decimal (n := 0) (by decide)) (.decimal (n := 0) (by decide))
    (hexDigit_hexDigit (n := n / 16) (by omega)) (hexDigit_hexDigit (n := n % 16) (by omega))
  have hvalue : ((0 * 16 + 0) * 16 + n / 16) * 16 + n % 16 = n := by omega
  rw [hvalue] at hunit
  exact hunit

lemma charSpelling_escapeChar (c : Char) : CharSpelling c (escapeChar c) := by
  have hchar {n : Nat} (h : c.toNat = n) : c = Char.ofNat n := by rw [← h, Char.ofNat_toNat]
  unfold escapeChar
  split
  · exact .letter (by decide)
  · exact .letter (by decide)
  · exact .letter (by decide)
  · exact .letter (by decide)
  · exact .letter (by decide)
  next hquote hslash _ _ _ =>
    split
    next h =>
      obtain rfl := hchar h
      exact .letter (by decide)
    split
    next h =>
      obtain rfl := hchar h
      exact .letter (by decide)
    split
    next h => exact .unit (codeUnit_control h)
    next h => exact .bare ⟨Nat.le_of_not_lt h, hquote, hslash⟩

/-- A string is spelled with its escapes. -/
lemma stringSpelling_stringText (s : String) : StringSpelling s (stringText s) := by
  refine ⟨s.toList.map escapeChar, ?_, by simp [stringText, List.flatMap]⟩
  rw [List.forall₂_map_right_iff, List.forall₂_same]
  exact fun c _ => charSpelling_escapeChar c

lemma printable_escapeChar (c : Char) : ∀ d ∈ escapeChar c, 32 ≤ d.toNat := by
  have hdigit : ∀ n < 16, 32 ≤ (hexDigit n).toNat := by decide
  unfold escapeChar
  split
  case h_6 =>
    split
    · simp
    split
    · simp
    split
    next h =>
      have hhigh := hdigit (c.toNat / 16) (by omega)
      have hlow := hdigit (c.toNat % 16) (by omega)
      simp [hhigh, hlow]
    next h => simpa using h
  all_goals simp

/-- There is no control character in a written string. -/
lemma printable_stringText (s : String) : ∀ c ∈ stringText s, 32 ≤ c.toNat := by
  intro c hc
  simp only [stringText, List.mem_append, List.mem_cons, List.mem_flatMap, List.not_mem_nil,
    or_false] at hc
  rcases hc with (rfl | ⟨d, -, hc⟩) | rfl
  · decide
  · exact printable_escapeChar d c hc
  · decide

/-! ## Items and members -/

/-- Pieces that all have the same white space in front of them. -/
lemma morePieces_flatMap {gap gap' : List Char} (hgap : Gap gap) (hgap' : Gap gap') (close : Char)
    (pieces : List (List Char)) :
    MorePieces close pieces (pieces.flatMap (fun p => ',' :: (gap ++ p)) ++ (gap' ++ [close])) := by
  induction pieces with
  | nil => exact .close hgap'
  | cons p pieces ih =>
    rw [List.flatMap_cons, List.append_assoc, List.cons_append, List.append_assoc]
    exact .more gap_nil hgap ih

lemma compactItems_eq (l : List Json) :
    compactItems l = (l.map compact).flatMap (fun p => ',' :: ([] ++ p)) ++ ([] ++ [']']) := by
  induction l with
  | nil => rfl
  | cons v l ih => simp [compactItems, ih]

/-- The text of a member in the compact layout. -/
def compactMember (m : String × Json) : List Char := stringText m.1 ++ ':' :: m.2.compact

lemma compactMembers_eq (l : List (String × Json)) :
    compactMembers l =
      (l.map compactMember).flatMap (fun p => ',' :: ([] ++ p)) ++ ([] ++ ['}']) := by
  induction l with
  | nil => rfl
  | cons m l ih => simp [compactMembers, compactMember, ih]

lemma prettyItems_eq (level : Nat) (l : List Json) :
    prettyItems level l =
      (l.map (prettyAt (level + 1))).flatMap (fun p => ',' :: (newline (level + 1) ++ p)) ++
        (newline level ++ [']']) := by
  induction l with
  | nil => simp [prettyItems]
  | cons v l ih => simp [prettyItems, ih]

/-- The text of a member in the pretty layout. -/
def prettyMember (level : Nat) (m : String × Json) : List Char :=
  stringText m.1 ++ ':' :: ' ' :: m.2.prettyAt level

lemma prettyMembers_eq (level : Nat) (l : List (String × Json)) :
    prettyMembers level l =
      (l.map (prettyMember (level + 1))).flatMap (fun p => ',' :: (newline (level + 1) ++ p)) ++
        (newline level ++ ['}']) := by
  induction l with
  | nil => simp [prettyMembers]
  | cons m l ih => simp [prettyMembers, prettyMember, ih]

lemma gap_newline (level : Nat) : Gap (newline level) := by
  intro c hc
  rcases List.mem_cons.1 hc with rfl | hc
  · decide
  · rw [List.eq_of_mem_replicate hc]
    decide

lemma gap_space : Gap [' '] := by
  simp [Gap]

lemma arrayText_compact (l : List Json) : ArrayText (l.map compact) (compact (.array l)) := by
  cases l with
  | nil => exact ⟨_, .close gap_nil, rfl⟩
  | cons v l =>
    refine ⟨_, .first gap_nil (morePieces_flatMap gap_nil gap_nil _ _), ?_⟩
    rw [compact, compactItems_eq]
    rfl

lemma arrayText_pretty (level : Nat) (l : List Json) :
    ArrayText (l.map (prettyAt (level + 1))) (prettyAt level (.array l)) := by
  have hgap := gap_newline (level + 1)
  cases l with
  | nil => exact ⟨_, .close gap_nil, rfl⟩
  | cons v l =>
    refine ⟨_, .first hgap (morePieces_flatMap hgap (gap_newline level) _ _), ?_⟩
    rw [prettyAt, prettyItems_eq]

lemma objectText_compact (l : List (String × Json)) :
    ObjectText StringSpelling (l.map fun m => (m.1, m.2.compact)) (compact (.object l)) := by
  have hmembers : List.Forall₂ (fun m piece => ∃ key, StringSpelling m.1 key ∧
      MemberText key m.2 piece) (l.map fun m => (m.1, m.2.compact)) (l.map compactMember) := by
    rw [List.forall₂_map_left_iff, List.forall₂_map_right_iff, List.forall₂_same]
    exact fun m _ => ⟨_, stringSpelling_stringText m.1, [], [], gap_nil, gap_nil, rfl⟩
  cases l with
  | nil => exact ⟨_, _, hmembers, .close gap_nil, rfl⟩
  | cons m l =>
    refine ⟨_, _, hmembers, .first gap_nil (morePieces_flatMap gap_nil gap_nil _ _), ?_⟩
    rw [compact, compactMembers_eq]
    simp [compactMember]

lemma objectText_pretty (level : Nat) (l : List (String × Json)) :
    ObjectText StringSpelling (l.map fun m => (m.1, m.2.prettyAt (level + 1)))
      (prettyAt level (.object l)) := by
  have hgap := gap_newline (level + 1)
  have hmembers : List.Forall₂ (fun m piece => ∃ key, StringSpelling m.1 key ∧
      MemberText key m.2 piece) (l.map fun m => (m.1, m.2.prettyAt (level + 1)))
      (l.map (prettyMember (level + 1))) := by
    rw [List.forall₂_map_left_iff, List.forall₂_map_right_iff, List.forall₂_same]
    exact fun m _ => ⟨_, stringSpelling_stringText m.1, [], [' '], gap_nil, gap_space, rfl⟩
  cases l with
  | nil => exact ⟨_, _, hmembers, .close gap_nil, rfl⟩
  | cons m l =>
    refine ⟨_, _, hmembers, .first hgap (morePieces_flatMap hgap (gap_newline level) _ _), ?_⟩
    rw [prettyAt, prettyMembers_eq]
    simp [prettyMember]

/-! ## Values -/

/-- An array is written by writing its items. -/
lemma Written.of_items {text : Json → List Char} {l : List Json} {whole : List Char}
    (hitems : ∀ v ∈ l, Written v (text v)) (h : ArrayText (l.map text) whole) :
    Written (.array l) whole := by
  have harray := @Written.array (l.map fun v => (v, text v)) whole
  simp only [List.map_map, Function.comp_def, List.map_id', List.forall_mem_map] at harray
  exact harray hitems h

/-- An object is written by writing the values of its members. -/
lemma Written.of_members {text : Json → List Char} {l : List (String × Json)} {whole : List Char}
    (hvalues : ∀ m ∈ l, Written m.2 (text m.2))
    (h : ObjectText StringSpelling (l.map fun m => (m.1, text m.2)) whole) :
    Written (.object l) whole := by
  have hobject := @Written.object (l.map fun m => (m, text m.2)) whole
  simp only [List.map_map, Function.comp_def, List.map_id', List.forall_mem_map] at hobject
  exact hobject hvalues h

lemma mem_compact_array {l : List Json} {c : Char} (h : c ∈ compact (.array l)) :
    c ∈ ['[', ',', ']'] ∨ ∃ v ∈ l, c ∈ v.compact := by
  cases l with
  | nil =>
    simp only [compact, List.mem_cons, List.not_mem_nil, or_false] at h ⊢
    grind
  | cons v l =>
    rw [compact, compactItems_eq] at h
    simp only [List.mem_cons, List.mem_append, List.mem_flatMap, List.mem_map, List.nil_append,
      List.not_mem_nil, or_false] at h ⊢
    grind

lemma mem_compact_object {l : List (String × Json)} {c : Char} (h : c ∈ compact (.object l)) :
    c ∈ ['\x7b', ',', ':', '\x7d'] ∨ ∃ m ∈ l, c ∈ stringText m.1 ∨ c ∈ m.2.compact := by
  cases l with
  | nil =>
    simp only [compact, List.mem_cons, List.not_mem_nil, or_false] at h ⊢
    grind
  | cons m l =>
    rw [compact, compactMembers_eq] at h
    simp only [compactMember, List.mem_cons, List.mem_append, List.mem_flatMap, List.mem_map,
      List.nil_append, List.not_mem_nil, or_false] at h ⊢
    grind

/-- Both layouts are texts of the value, and there is no control character in the compact one. -/
structure Legible (v : Json) : Prop where
  compact : Written v v.compact
  pretty : ∀ level, Written v (v.prettyAt level)
  printable : ∀ c ∈ v.compact, 32 ≤ c.toNat

namespace Legible

lemma null : Legible .null := ⟨.null, fun _ => .null, by simp [Json.compact]⟩

lemma bool (b : Bool) : Legible (.bool b) := by
  cases b with
  | false => exact ⟨.no, fun _ => .no, by simp [Json.compact]⟩
  | true => exact ⟨.yes, fun _ => .yes, by simp [Json.compact]⟩

lemma string (s : String) : Legible (.string s) :=
  ⟨.string (stringSpelling_stringText s), fun _ => .string (stringSpelling_stringText s),
    printable_stringText s⟩

lemma ofNat {n : Nat} (hn : n < Nat.pow 2 64) : Legible (.ofNat n) := by
  refine ⟨.natural hn rfl, fun _ => .natural hn rfl, fun c hc => ?_⟩
  have hdigit : Digit c := (isWhole_toDigits n).1.2 c hc
  exact Nat.le_trans (by decide) hdigit.1

lemma array {l : List Json} (h : ∀ v ∈ l, Legible v) : Legible (.array l) where
  compact := .of_items (fun v hv => (h v hv).compact) (arrayText_compact l)
  pretty level := .of_items (fun v hv => (h v hv).pretty (level + 1)) (arrayText_pretty level l)
  printable c hc := by
    rcases mem_compact_array hc with hc | ⟨v, hv, hc⟩
    · have hmarks : ∀ d ∈ ['[', ',', ']'], 32 ≤ d.toNat := by simp
      exact hmarks c hc
    · exact (h v hv).printable c hc

lemma object {l : List (String × Json)} (h : ∀ m ∈ l, Legible m.2) : Legible (.object l) where
  compact := .of_members (fun m hm => (h m hm).compact) (objectText_compact l)
  pretty level :=
    .of_members (fun m hm => (h m hm).pretty (level + 1)) (objectText_pretty level l)
  printable c hc := by
    rcases mem_compact_object hc with hc | ⟨m, hm, hc | hc⟩
    · have hmarks : ∀ d ∈ ['\x7b', ',', ':', '\x7d'], 32 ≤ d.toNat := by simp
      exact hmarks c hc
    · exact printable_stringText m.1 c hc
    · exact (h m hm).printable c hc

end Legible

end LintBridge.Json
