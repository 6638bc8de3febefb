/-
# The shortest numeral of a number

A binary floating point number is written with the fewest decimal digits that read back as it, and
with the nearest such numeral to it.

* `Binary64.shortest`: the digits and the place of the last one.
* `NumeralFormat`: the choices in laying the digits out.
* `Binary64.render`: the numeral.
-/
import LintBridge.Decimal.Binary64

namespace LintBridge

/-- The number of decimal digits. -/
def digitCount (n : Nat) : Nat := (Nat.toDigits 10 n).length

namespace Binary64

/-- The place of the first decimal digit of `n / d`, for `n` and `d` not zero. -/
def leadingPlace (n d : Nat) : Int :=
  let p : Int := (digitCount n : Int) - (digitCount d : Int)
  let reached := if 0 ≤ p then d * Nat.pow 10 p.toNat ≤ n else d ≤ n * Nat.pow 10 (-p).toNat
  if reached then p else p - 1

/-- `c · 10 ^ place` as a quotient. -/
def decimalRatio (c : Nat) (place : Int) : Nat × Nat :=
  if 0 ≤ place then (c * Nat.pow 10 place.toNat, 1) else (c, Nat.pow 10 (-place).toNat)

/-- Whether `c · 10 ^ place` reads back as the magnitude. -/
def readsBack (a : Nat × Int) (c : Nat) (place : Int) : Bool :=
  let r := decimalRatio c place
  nearest? r.1 r.2 = some a

/-- The better of the two neighbours of the magnitude among the multiples of `10 ^ place`, if one
of them reads back; of two that are equally near, the even one. -/
def onGrid? (a : Nat × Int) (place : Int) : Option Nat :=
  let (n, d) := ratio a
  let (gn, gd) := decimalRatio 1 place
  -- the magnitude counted in multiples of the grid's step
  let num := n * gd
  let den := d * gn
  let low := num / den
  match readsBack a low place, readsBack a (low + 1) place with
  | true, true => some (roundHalfEven num den)
  | true, false => some low
  | false, true => some (low + 1)
  | false, false => none

/-- Drop the zeros at the end of a digit string given as a number, at most `n` of them. -/
def dropZeros : Nat → Nat → Int → Nat × Int
  | 0, c, place => (c, place)
  | n + 1, c, place => if c % 10 = 0 then dropZeros n (c / 10) (place + 1) else (c, place)

/-- The shortest digits that read back, with the place of the last one; `17` always suffice. -/
def shortest (a : Nat × Int) : Nat × Int :=
  let (n, d) := ratio a
  let first := leadingPlace n d
  let places : List Int := (List.range 17).map fun k => first - Int.ofNat k
  match places.findSome? fun place => (onGrid? a place).map (·, place) with
  | some (c, place) => dropZeros 20 c place
  | none => (n / d, 0)

end Binary64

/-- The choices in laying out a numeral. -/
structure NumeralFormat where
  /-- The lowest place of the first digit that is written without an exponent. -/
  lowest : Int
  /-- The highest such place. -/
  highest : Int
  /-- The least number of digits of an exponent. -/
  exponentDigits : Nat

namespace Binary64

/-- The digits with zeros in front up to a width. -/
def padDigits (width n : Nat) : List Char :=
  let ds := Nat.toDigits 10 n
  List.replicate (width - ds.length) '0' ++ ds

/-- The digits with a point after the place of the ones. -/
def positional (c : Nat) (place : Int) : List Char :=
  if 0 ≤ place then Nat.toDigits 10 c ++ List.replicate place.toNat '0' ++ ['.', '0']
  else
    let behind := (-place).toNat
    let ds := padDigits (behind + 1) c
    ds.take (ds.length - behind) ++ '.' :: ds.drop (ds.length - behind)

/-- One digit, a point if more follow, the others, and the exponent with its sign. -/
def scientific (f : NumeralFormat) (c : Nat) (first : Int) : List Char :=
  let mantissa :=
    match Nat.toDigits 10 c with
    | [d] => [d]
    | d :: ds => d :: '.' :: ds
    | [] => []
  mantissa ++ 'e' :: (if 0 ≤ first then '+' else '-') :: padDigits f.exponentDigits first.natAbs

/-- The shortest numeral of a number in the given format. -/
def render (f : NumeralFormat) (x : Binary64) : List Char :=
  let sign := if x.negative then ['-'] else []
  if x.mantissa = 0 then sign ++ ['0', '.', '0']
  else
    let (c, place) := shortest (x.mantissa, x.exponent)
    let first := place + digitCount c - 1
    sign ++
      if f.lowest ≤ first ∧ first ≤ f.highest then positional c place else scientific f c first

end Binary64

end LintBridge
