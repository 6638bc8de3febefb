/-
# Texts as bytes

Bytes are kept as characters below 256, one for each byte, so that they can be read like a text.

* `Octets.ofString`: the bytes of a text in UTF-8.
* `Octets.decode?`: the text of bytes that are UTF-8 throughout.
* `Octets.decode`: the text of any bytes, with the replacement character for what is no UTF-8.
-/
namespace LintBridge

/-- A sequence of bytes, as characters below 256. -/
abbrev Octets := List Char

namespace Octets

/-- The byte with the lowest eight bits of a number. -/
def byte (n : Nat) : Char := Char.ofNat (n % 256)

/-- The bytes of a character in UTF-8. -/
def ofChar (c : Char) : Octets :=
  let n := c.toNat
  if n < 0x80 then [c]
  else if n < 0x800 then [byte (0xC0 + n / 64), byte (0x80 + n % 64)]
  else if n < 0x10000 then
    [byte (0xE0 + n / 4096), byte (0x80 + n / 64 % 64), byte (0x80 + n % 64)]
  else
    [byte (0xF0 + n / 262144), byte (0x80 + n / 4096 % 64), byte (0x80 + n / 64 % 64),
      byte (0x80 + n % 64)]

/-- The bytes of a text in UTF-8. -/
def ofString (s : String) : Octets := s.toList.flatMap ofChar

/-- The number of bytes that follow the first byte of a character, and the range of the next one;
none if no character of several bytes starts like this. -/
def sequence? (first : Nat) : Option (Nat × Nat × Nat) :=
  if first < 0xC2 then none
  else if first < 0xE0 then some (1, 0x80, 0xBF)
  else if first = 0xE0 then some (2, 0xA0, 0xBF)
  else if first = 0xED then some (2, 0x80, 0x9F)
  else if first < 0xF0 then some (2, 0x80, 0xBF)
  else if first = 0xF0 then some (3, 0x90, 0xBF)
  else if first < 0xF4 then some (3, 0x80, 0xBF)
  else if first = 0xF4 then some (3, 0x80, 0x8F)
  else none

/-- Take `more` bytes, the next one between `low` and `high`; the number read so far is `n`. -/
def continue? : Nat → Nat → Nat → Nat → Octets → Option Char × Octets
  | 0, _, _, n, s => (some (Char.ofNat n), s)
  | _ + 1, _, _, _, [] => (none, [])
  | more + 1, low, high, n, c :: s =>
    if low ≤ c.toNat && c.toNat ≤ high then continue? more 0x80 0xBF (n * 64 + c.toNat % 64) s
    else (none, c :: s)

/-- The first character, or none if what starts here breaks off, and the bytes after it. -/
def first (c : Char) (s : Octets) : Option Char × Octets :=
  if c.toNat < 0x80 then (some c, s)
  else
    match sequence? c.toNat with
    | none => (none, s)
    | some (more, low, high) => continue? more low high (c.toNat % Nat.pow 2 (6 - more)) s

/-- The characters of bytes, each of which starts one of at most as many as the budget has; none
stands for bytes that are no UTF-8. -/
def charactersWithin : Octets → Octets → List (Option Char)
  | _ :: budget, c :: s =>
    let (x, rest) := first c s
    x :: charactersWithin budget rest
  | _, _ => []

/-- The characters of bytes; none stands for bytes that are no UTF-8. -/
def characters (s : Octets) : List (Option Char) := charactersWithin s s

/-- The text of bytes that are UTF-8 throughout. -/
def decode? (s : Octets) : Option String := ((characters s).mapM id).map String.ofList

/-- The replacement character. -/
def replacement : Char := '\uFFFD'

/-- The text of bytes, with the replacement character for what is no UTF-8. -/
def decode (s : Octets) : String :=
  String.ofList ((characters s).map fun x => x.getD replacement)

/-- Whether the first text comes before the second one. -/
def precedes : Octets → Octets → Bool
  | [], [] => false
  | [], _ :: _ => true
  | _ :: _, [] => false
  | a :: s, b :: t => a < b || (a = b && precedes s t)

end Octets

end LintBridge
