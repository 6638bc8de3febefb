/-
# Texts survive as bytes

A text is written as bytes in UTF-8 and read from them again.  The first byte of a character says
how many bytes follow it, and in which range the next one is, so what follows the character is left.

* `Octets.first_ofChar`: the bytes of a character are read as the character.
* `Octets.decode?_ofString`: the bytes of a text are read as the text.
-/
import LintBridge.Text.Utf8
import Mathlib.Tactic.Common

namespace LintBridge.Octets

variable {n low high more : Nat} {c : Char}

lemma toNat_byte (h : n < 256) : (byte n).toNat = n := by
  have hvalid : n.isValidChar := .inl (by omega)
  rw [byte, Nat.mod_eq_of_lt h, Char.ofNat, dif_pos hvalid]
  rfl

/-- The numbers of characters. -/
lemma toNat_cases (c : Char) : c.toNat < 0xD800 ∨ 0xDFFF < c.toNat ∧ c.toNat < 0x110000 := c.valid

lemma continue?_cons (hlow : low ≤ c.toNat) (hhigh : c.toNat ≤ high) (s : Octets) :
    continue? (more + 1) low high n (c :: s) =
      continue? more 0x80 0xBF (n * 64 + c.toNat % 64) s := by
  simp [continue?, hlow, hhigh]

/-- A byte that follows another one has the next six bits. -/
lemma continue?_byte {m : Nat} (hm : m < 64) (hlow : low ≤ 0x80 + m) (hhigh : 0x80 + m ≤ high)
    (s : Octets) :
    continue? (more + 1) low high n (byte (0x80 + m) :: s) =
      continue? more 0x80 0xBF (n * 64 + m) s := by
  have hbyte : (byte (0x80 + m)).toNat = 0x80 + m := toNat_byte (by omega)
  rw [continue?_cons (by omega) (by omega), hbyte]
  congr 1
  omega

lemma first_byte {start more low high : Nat} (hstart : start < 256)
    (h : sequence? start = some (more, low, high)) (s : Octets) :
    first (byte start) s = continue? more low high (start % Nat.pow 2 (6 - more)) s := by
  have hlarge : ¬start < 0x80 := by
    intro hsmall
    rw [sequence?, if_pos (by omega)] at h
    cases h
  rw [first, toNat_byte hstart, if_neg hlarge, h]

/-! ## The first byte of a character -/

lemma sequence?_two (hlow : 0x80 ≤ n) (hhigh : n < 0x800) :
    sequence? (0xC0 + n / 64) = some (1, 0x80, 0xBF) := by
  rw [sequence?, if_neg (by omega), if_pos (by omega)]

/-- The range of the second byte leaves out the numbers that have shorter forms and those of no
character. -/
lemma sequence?_three (hlow : 0x800 ≤ n) (hhigh : n < 0x10000) (hn : n < 0xD800 ∨ 0xDFFF < n) :
    ∃ low high, sequence? (0xE0 + n / 4096) = some (2, low, high) ∧ low ≤ 0x80 + n / 64 % 64 ∧
      0x80 + n / 64 % 64 ≤ high := by
  rw [sequence?, if_neg (by omega), if_neg (by omega)]
  split_ifs with hfirst hgap
  · exact ⟨_, _, rfl, by omega, by omega⟩
  · exact ⟨_, _, rfl, by omega, by omega⟩
  · exact ⟨_, _, rfl, by omega, by omega⟩
  all_goals omega

lemma sequence?_four (hlow : 0x10000 ≤ n) (hhigh : n < 0x110000) :
    ∃ low high, sequence? (0xF0 + n / 262144) = some (3, low, high) ∧
      low ≤ 0x80 + n / 4096 % 64 ∧ 0x80 + n / 4096 % 64 ≤ high := by
  rw [sequence?, if_neg (by omega), if_neg (by omega), if_neg (by omega), if_neg (by omega),
    if_neg (by omega)]
  split_ifs with hfirst hinner hlast
  · exact ⟨_, _, rfl, by omega, by omega⟩
  · exact ⟨_, _, rfl, by omega, by omega⟩
  · exact ⟨_, _, rfl, by omega, by omega⟩
  · omega

/-- **The bytes of a character are read as the character**, and what follows them is left. -/
lemma first_ofChar (c : Char) :
    ∃ b tail, ofChar c = b :: tail ∧ ∀ s, first b (tail ++ s) = (some c, s) := by
  have hn := toNat_cases c
  have hchar {m : Nat} (hm : m = c.toNat) : Char.ofNat m = c := by rw [hm, Char.ofNat_toNat]
  rw [ofChar]
  split_ifs with hone htwo hthree
  · exact ⟨c, [], rfl, fun s => by simp [first, hone]⟩
  · refine ⟨_, _, rfl, fun s => ?_⟩
    rw [first_byte (by omega) (sequence?_two (by omega) htwo), List.cons_append,
      continue?_byte (by omega) (by omega) (by omega), continue?, hchar]
    · rfl
    · change (0xC0 + c.toNat / 64) % 32 * 64 + c.toNat % 64 = c.toNat
      omega
  · obtain ⟨low, high, hstart, hlow, hhigh⟩ := sequence?_three (by omega) hthree (by omega)
    refine ⟨_, _, rfl, fun s => ?_⟩
    rw [first_byte (by omega) hstart, List.cons_append, List.cons_append,
      continue?_byte (by omega) hlow hhigh, continue?_byte (by omega) (by omega) (by omega),
      continue?, hchar]
    · rfl
    · change ((0xE0 + c.toNat / 4096) % 16 * 64 + c.toNat / 64 % 64) * 64 + c.toNat % 64 = c.toNat
      omega
  · obtain ⟨low, high, hstart, hlow, hhigh⟩ := sequence?_four (n := c.toNat) (by omega) (by omega)
    refine ⟨_, _, rfl, fun s => ?_⟩
    rw [first_byte (by omega) hstart, List.cons_append, List.cons_append, List.cons_append,
      continue?_byte (by omega) hlow hhigh, continue?_byte (by omega) (by omega) (by omega),
      continue?_byte (by omega) (by omega) (by omega), continue?, hchar]
    · rfl
    · change (((0xF0 + c.toNat / 262144) % 8 * 64 + c.toNat / 4096 % 64) * 64 +
        c.toNat / 64 % 64) * 64 + c.toNat % 64 = c.toNat
      omega

/-! ## Texts -/

/-- A character has at least one byte, so the bytes themselves are budget enough. -/
lemma charactersWithin_ofChar {cs : List Char} {budget : Octets}
    (h : (cs.flatMap ofChar).length ≤ budget.length) :
    charactersWithin budget (cs.flatMap ofChar) = cs.map some := by
  -- on the characters, for any budget that is as long as their bytes
  induction cs generalizing budget with
  | nil => cases budget <;> rfl
  | cons c cs ih =>
    obtain ⟨b, tail, hc, hfirst⟩ := first_ofChar c
    rw [List.flatMap_cons, hc, List.cons_append] at h ⊢
    cases budget with
    | nil => exact absurd h (Nat.not_succ_le_zero _)
    | cons _ budget =>
      rw [charactersWithin, hfirst, List.map_cons]
      refine congrArg (some c :: ·) (ih ?_)
      rw [List.length_cons, List.length_cons, List.length_append] at h
      omega

/-- **The bytes of a text are read as the text.** -/
theorem decode?_ofString (s : String) : decode? (ofString s) = some s := by
  have hall (cs : List Char) : (cs.map some).mapM id = some cs := by
    induction cs with
    | nil => rfl
    | cons c cs ih => simp [ih]
  rw [decode?, characters, ofString, charactersWithin_ofChar (Nat.le_refl _), hall]
  simp

/-- A text with characters of one, two, three and four bytes. -/
example : (ofString "aé€😀").map Char.toNat =
    [0x61, 0xC3, 0xA9, 0xE2, 0x82, 0xAC, 0xF0, 0x9F, 0x98, 0x80] := by decide +kernel

end LintBridge.Octets
