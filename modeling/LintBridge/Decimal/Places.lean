/-
# Numerals with a given number of places

* `Decimal.fixed`: a number with so many digits behind the point.
* `Decimal.scientific`: one digit, so many behind the point, and an exponent.
* `Decimal.general`: so many digits, in the form that suits the size of the number.
* `Decimal.read?`: the number that a text starts with.
-/
import LintBridge.Decimal.Shortest

namespace LintBridge

/-- A number as it is read for output. -/
inductive Magnitude where
  /-- A mantissa and the place of its last binary digit. -/
  | finite (mantissa : Nat) (exponent : Int)
  | infinite
  /-- No number at all. -/
  | undefined
deriving DecidableEq, Repr

namespace Decimal

/-- A numeral in two parts: what stands in front of zeros that fill it up, and the rest. -/
abbrev Numeral := List Char

/-- The digits of `n / d` with so many of them behind the point; `pointed` keeps the point if there
are none. -/
def fixed (places : Nat) (pointed : Bool) (n d : Nat) : Numeral :=
  let ds := Binary64.padDigits (places + 1) (roundHalfEven (n * Nat.pow 10 places) d)
  let whole := ds.take (ds.length - places)
  if places = 0 && !pointed then whole else whole ++ '.' :: ds.drop (ds.length - places)

/-- The first `places + 1` digits of `n / d`, rounded, and the place of the first one. -/
def leading (places : Nat) (n d : Nat) : Nat × Int :=
  if n = 0 then (0, 0)
  else
    let first := Binary64.leadingPlace n d
    let (gn, gd) := Binary64.decimalRatio 1 (first - places)
    let c := roundHalfEven (n * gd) (d * gn)
    if c = Nat.pow 10 (places + 1) then (c / 10, first + 1) else (c, first)

/-- An exponent with its letter and sign. -/
def exponentText (place : Int) : Numeral :=
  'e' :: (if 0 ≤ place then '+' else '-') :: Binary64.padDigits 2 place.natAbs

/-- One digit of `n / d`, so many behind the point, and the exponent. -/
def scientific (places : Nat) (pointed : Bool) (n d : Nat) : Numeral :=
  let (c, first) := leading places n d
  let ds := Binary64.padDigits (places + 1) c
  let point := if places = 0 && !pointed then [] else ['.']
  ds.take 1 ++ point ++ ds.drop 1 ++ exponentText first

/-- A numeral without the zeros at the end of its fraction. -/
def dropFraction (s : Numeral) : Numeral :=
  if s.contains '.' then
    let kept := (s.reverse.dropWhile (· = '0')).reverse
    if kept.getLast? = some '.' then kept.dropLast else kept
  else s

/-- So many digits of `n / d`, with an exponent if the number is very small or has more digits than
that; `full` keeps the zeros at the end of the fraction. -/
def general (digits : Nat) (full : Bool) (n d : Nat) : Numeral :=
  let digits := max digits 1
  let (c, first) := leading (digits - 1) n d
  let trim (s : Numeral) : Numeral := if full then s else dropFraction s
  if first < -4 || (digits : Int) ≤ first then
    let ds := Binary64.padDigits digits c
    trim (ds.take 1 ++ '.' :: ds.drop 1) ++ exponentText first
  else trim (fixed ((digits : Int) - 1 - first).toNat true n d)

/-- The number that a text without a sign starts with, whether it is out of range, and the rest. -/
def read? (s : List Char) : Option (Magnitude × Bool × List Char) :=
  let lower := (s.take 8).map Char.toLower
  if "infinity".toList.isPrefixOf lower then some (.infinite, false, s.drop 8)
  else if "inf".toList.isPrefixOf lower then some (.infinite, false, s.drop 3)
  else if "nan".toList.isPrefixOf lower then some (.undefined, false, s.drop 3)
  else
    let whole := s.takeWhile Char.isDigit
    let rest := s.dropWhile Char.isDigit
    let (fraction, rest) :=
      match rest with
      | '.' :: behind => (behind.takeWhile Char.isDigit, behind.dropWhile Char.isDigit)
      | rest => ([], rest)
    if whole.isEmpty && fraction.isEmpty then none
    else
      let (power, rest) := exponent rest
      let value (ds : List Char) : Nat := ds.foldl (fun n d => n * 10 + (d.toNat - '0'.toNat)) 0
      let digits := value (whole ++ fraction)
      let place : Int := max (-5000) (min 5000 power) - fraction.length
      let (n, d) := Binary64.decimalRatio 1 place
      match Binary64.nearest? (digits * n) d with
      | none => some (.infinite, true, rest)
      | some (m, e) => some (.finite m e, m = 0 && digits ≠ 0, rest)
where
  /-- The exponent at the front of a text, if there is one, and the rest. -/
  exponent (s : List Char) : Int × List Char :=
    match s with
    | e :: rest =>
      let (sign, behind) : Int × List Char :=
        match rest with
        | '-' :: behind => (-1, behind)
        | '+' :: behind => (1, behind)
        | behind => (1, behind)
      let ds := behind.takeWhile Char.isDigit
      if (e = 'e' || e = 'E') && !ds.isEmpty then
        let value := ds.foldl (fun n d => min 100000 (n * 10 + (d.toNat - '0'.toNat))) 0
        (sign * value, behind.dropWhile Char.isDigit)
      else (0, s)
    | [] => (0, [])

end Decimal

end LintBridge
