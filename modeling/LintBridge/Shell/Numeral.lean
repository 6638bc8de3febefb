/-
# Numbers in texts

Whole numbers of 64 bits, with the sign among them.

* `Numeral.leading?`: the number that a text starts with, in the base that its first digits tell.
* `Numeral.whole?`: the number that a text is.
* `Numeral.wrap`: the number of 64 bits that a number turns into.
* `Numeral.text`: the decimal form.
-/
import LintBridge.Text.Utf8

namespace LintBridge.Shell

namespace Numeral

/-- The smallest number. -/
def least : Int := -9223372036854775808

/-- The greatest number. -/
def greatest : Int := 9223372036854775807

/-- How many numbers there are. -/
def count : Nat := 18446744073709551616

/-- The number of 64 bits that a number turns into. -/
def wrap (n : Int) : Int := n.bmod count

/-- The bits of a number, as a natural number. -/
def bits (n : Int) : Nat := (n % count).toNat

/-- The nearest number of 64 bits. -/
def clamp (n : Int) : Int := if n < least then least else if greatest < n then greatest else n

/-- Whether a number has 64 bits. -/
def fits (n : Int) : Bool := least ≤ n && n ≤ greatest

/-- Whether a character is blank space. -/
def isSpace (c : Char) : Bool := [' ', '\t', '\n', '\x0b', '\x0c', '\r'].contains c

/-- The value of a digit; that of a letter is ten or more. -/
def digit (c : Char) : Nat :=
  if c.isDigit then c.toNat - '0'.toNat
  else if 'a' ≤ c && c ≤ 'z' then c.toNat - 'a'.toNat + 10
  else if 'A' ≤ c && c ≤ 'Z' then c.toNat - 'A'.toNat + 10
  else 36

/-- Whether a character is a digit in a base. -/
def isDigit (base : Nat) (c : Char) : Bool := digit c < base

/-- The number with the given digits. -/
def ofDigits (base : Nat) (ds : Octets) : Nat := ds.foldl (fun n d => n * base + digit d) 0

/-- The base of the number that a text starts with, and the text from the first digit that counts
on. -/
def baseOf (s : Octets) : Nat × Octets :=
  let starts (base : Nat) (rest : Octets) : Bool := (rest.head?.map (isDigit base)).getD false
  match s with
  | '0' :: x :: rest =>
    if (x = 'x' || x = 'X') && starts 16 rest then (16, rest)
    else if (x = 'b' || x = 'B') && starts 2 rest then (2, rest)
    else (8, s)
  | s => (if s.head? = some '0' then 8 else 10, s)

/-- The sign of a number and what follows it. -/
def signOf : Octets → Int × Octets
  | '-' :: rest => (-1, rest)
  | '+' :: rest => (1, rest)
  | s => (1, s)

/-- The number that a text starts with after blank space, whatever its size, and the rest; `based`
tells whether the first digits tell the base, which is ten otherwise. -/
def leading? (based : Bool) (s : Octets) : Option (Int × Octets) :=
  let (sign, s) := signOf (s.dropWhile isSpace)
  let (base, s) := if based then baseOf s else (10, s)
  let ds := s.takeWhile (isDigit base)
  if ds.isEmpty then none else some (sign * ofDigits base ds, s.drop ds.length)

/-- The number that a text is, with blank space around it. -/
def whole? (based : Bool) (s : Octets) : Option Int := do
  let (n, rest) ← leading? based s
  if rest.all isSpace && fits n then some n else none

/-- The decimal form of a number. -/
def text (n : Int) : Octets :=
  if n < 0 then '-' :: Nat.toDigits 10 n.natAbs else Nat.toDigits 10 n.natAbs

/-- The number that digits alone make. -/
def natural? (s : Octets) : Option Nat :=
  if !s.isEmpty && s.all Char.isDigit then some (ofDigits 10 s) else none

end Numeral

end LintBridge.Shell
