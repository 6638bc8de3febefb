/-
# Wrapped text

A paragraph is set in lines of a bounded width.  Whether a line may end between two characters
depends on their classes; besides, it may end behind a hyphen between letters or digits.  Every line
takes as much as fits, and a word that is too wide for a line is cut.

* `Text.mayEnd`: whether a line may end between two classes of characters.
* `Text.stretches`, `Text.cutAtHyphens`: a text cut wherever a line may end.
* `Text.wrap`: the lines of a text.
-/
import LintBridge.Text.Alphanumeric
import LintBridge.Text.Split

namespace LintBridge.Text

/-- What a character means for the ends of lines. -/
inductive LineClass where
  | blank
  | opening
  | closing
  | closingParenthesis
  | quote
  /-- A mark that ends a sentence with some emphasis. -/
  | emphasis
  /-- A mark between the parts of a sentence or a number. -/
  | separator
  | slash
  | hyphen
  /-- A character behind which a line may end. -/
  | bar
  | digit
  | letter
  /-- What stands in front of a number. -/
  | beforeNumber
  /-- What stands behind a number. -/
  | afterNumber
  | ideograph
  /-- A character that belongs to the one before it. -/
  | attached
  /-- The end of a line. -/
  | lineEnd
deriving DecidableEq, Repr

/-- The ranges of characters that take two columns. -/
def wideRanges : List (Nat × Nat) := [
  (0x1100, 0x115F), (0x2E80, 0x303E), (0x3041, 0x4DBF), (0x4E00, 0xA4CF), (0xA960, 0xA97F),
  (0xAC00, 0xD7A3), (0xF900, 0xFAFF), (0xFE30, 0xFE6F), (0xFF01, 0xFF60), (0xFFE0, 0xFFE6),
  (0x1F300, 0x1F64F), (0x1F680, 0x1F6FF), (0x1F900, 0x1F9FF), (0x20000, 0x2FFFD),
  (0x30000, 0x3FFFD)]

/-- The ranges of characters that take no column of their own. -/
def attachedRanges : List (Nat × Nat) := [
  (0x0, 0x8), (0xE, 0x1F), (0x7F, 0x84), (0x86, 0x9F), (0x300, 0x36F), (0x1AB0, 0x1AFF),
  (0x1DC0, 0x1DFF), (0x200C, 0x200F), (0x20D0, 0x20FF), (0xFE00, 0xFE0F), (0xFE20, 0xFE2F)]

/-- The class of a character. -/
def lineClass (c : Char) : LineClass :=
  if c = ' ' then .blank
  else if ['(', '[', '\x7b'].contains c then .opening
  else if c = '\x7d' then .closing
  else if [')', ']'].contains c then .closingParenthesis
  else if ['"', '\x27'].contains c then .quote
  else if ['!', '?'].contains c then .emphasis
  else if [',', '.', ':', ';'].contains c then .separator
  else if c = '/' then .slash
  else if c = '-' then .hyphen
  else if ['|', '\t'].contains c then .bar
  else if c.isDigit then .digit
  else if ['$', '+', '\\'].contains c then .beforeNumber
  else if c = '%' then .afterNumber
  else if ['\x0b', '\x0c', '\r', '\u0085', '\u2028', '\u2029'].contains c then .lineEnd
  else if inRanges attachedRanges c then .attached
  else if inRanges wideRanges c then .ideograph
  else .letter

/-- The classes of the characters that stay on the line of a character right before them, apart from
those that always do so. -/
def LineClass.followers : LineClass → List LineClass
  | letter => [letter, digit, beforeNumber, afterNumber, opening]
  | digit => [letter, digit, beforeNumber, afterNumber, opening]
  | beforeNumber => [letter, digit, ideograph, opening]
  | afterNumber => [letter, digit, opening]
  | closing => [beforeNumber, afterNumber]
  | closingParenthesis => [letter, digit, beforeNumber, afterNumber]
  | separator => [letter, digit]
  | slash => [digit]
  | hyphen => [digit]
  | ideograph => [afterNumber]
  | _ => []

/-- Whether a line may end between two characters next to each other. -/
def mayEndBetween (a b : LineClass) : Bool :=
  match a, b with
  | .quote, _ => false
  | _, .quote => false
  | _, .bar => false
  | _, .hyphen => false
  | a, b => !a.followers.contains b

/-- Whether a line may end between a character of class `a`, perhaps with blanks behind it, and one
of class `b`. -/
def mayEnd (a : LineClass) (blanks : Bool) (b : LineClass) : Bool :=
  match a, b with
  | _, .blank => false
  | _, .lineEnd => false
  | .lineEnd, _ => true
  | _, .closing => false
  | _, .closingParenthesis => false
  | _, .emphasis => false
  | _, .separator => false
  | _, .slash => false
  | .opening, _ => false
  | .quote, .opening => false
  | _, .attached => blanks
  | a, b => blanks || mayEndBetween a b

/-- A text cut wherever a line may end but behind a hyphen.  The text goes on behind `before`, given
in reverse, which starts where it was cut last; `a` is the class of the last character that is no
blank. -/
def stretchesFrom (a : Option LineClass) (before : List Char) : List Char → List (List Char)
  | [] => [before.reverse]
  | c :: cs =>
    let b := lineClass c
    let blanks := before.head? = some ' '
    let next : Option LineClass :=
      match b, a with
      | .blank, _ => a
      | .attached, some a => if blanks || a = .lineEnd then some .letter else some a
      | .attached, none => some .letter
      | b, _ => some b
    let ends := match a with
      | some a => mayEnd a blanks b
      | none => blanks && mayEnd .letter true b
    if ends && before.head? ≠ some '-' && before.head? ≠ some '\u00ad' then
      before.reverse :: stretchesFrom next [c] cs
    else stretchesFrom next (c :: before) cs

/-- A text cut wherever a line may end but behind a hyphen. -/
def stretches (cs : List Char) : List (List Char) := stretchesFrom none [] cs

/-- A stretch cut behind the hyphens between letters or digits, where `before` is what has been read
of it since the last one, in reverse. -/
def cutAtHyphens (before : List Char) : List Char → List (List Char)
  | [] => [before.reverse]
  | c :: cs =>
    let isJoint (x : Option Char) : Bool := (x.map isAlphanumeric).getD false
    if c = '-' && isJoint before.head? && isJoint cs.head? then
      (c :: before).reverse :: cutAtHyphens [] cs
    else cutAtHyphens (c :: before) cs

/-- How many columns a character takes. -/
def columnsOf (c : Char) : Nat :=
  if c = '\t' then 0
  else
    match lineClass c with
    | .attached => 0
    | .lineEnd => 0
    | _ => if inRanges wideRanges c then 2 else 1

/-- How many columns a text takes. -/
def columns (cs : List Char) : Nat := cs.foldl (fun n c => n + columnsOf c) 0

/-- A text without the blanks at its end. -/
def withoutBlanks (cs : List Char) : List Char := (cs.reverse.dropWhile (· = ' ')).reverse

/-- A text cut where it would take more columns than `width`; the part before it, given in reverse,
takes `used` of them. -/
def cutAt (width used : Nat) (before : List Char) : List Char → List (List Char)
  | [] => [before.reverse]
  | c :: cs =>
    let n := columnsOf c
    if 0 < used && width < used + n then before.reverse :: cutAt width n [c] cs
    else cutAt width (used + n) (c :: before) cs

/-- A stretch cut where it would take more columns than `width`; the blanks at its end do not
count. -/
def cutWide (width : Nat) (w : List Char) : List (List Char) :=
  let text := withoutBlanks w
  if columns text ≤ width then [w]
  else
    let pieces := cutAt width 0 [] text
    pieces.dropLast ++ [pieces.getLastD [] ++ w.drop text.length]

/-- Lines from stretches each of which fits; the line so far is `line` and takes `used` columns. -/
def fill (width : Nat) (line : List Char) (used : Nat) : List (List Char) → List (List Char)
  | [] => [withoutBlanks line]
  | w :: ws =>
    if width < used + columns (withoutBlanks w) then
      withoutBlanks line :: fill width w (columns w) ws
    else fill width (line ++ w) (used + columns w) ws

/-- The lines of a paragraph. -/
def wrapParagraph (width : Nat) (cs : List Char) : List (List Char) :=
  fill width [] 0 (((stretches cs).flatMap (cutAtHyphens [])).flatMap (cutWide width))

/-- The lines of a text. -/
def wrap (width : Nat) (s : String) : List String :=
  (split '\n' s.toList).flatMap fun p => (wrapParagraph width p).map String.ofList

end LintBridge.Text
