/-
# Blank characters

The characters with the property White_Space.  The byte order mark and the zero-width space do not
have it.

* `isBlank`: the class.
* `trim`: a text without the blank characters at its ends.
-/
import LintBridge.Text.Ranges

namespace LintBridge.Text

/-- The ranges of White_Space. -/
def blankRanges : List (Nat × Nat) := [
  (0x9, 0xD), (0x20, 0x20), (0x85, 0x85), (0xA0, 0xA0), (0x1680, 0x1680), (0x2000, 0x200A),
  (0x2028, 0x2029), (0x202F, 0x202F), (0x205F, 0x205F), (0x3000, 0x3000)]

/-- Whether a character is white space of any script. -/
def isBlank (c : Char) : Bool := inRanges blankRanges c

/-- The characters without the blank ones at both ends. -/
def trimChars (cs : List Char) : List Char :=
  ((cs.dropWhile isBlank).reverse.dropWhile isBlank).reverse

/-- The text without the blank characters at both ends. -/
def trim (s : String) : String := String.ofList (trimChars s.toList)

end LintBridge.Text
