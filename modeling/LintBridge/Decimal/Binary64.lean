/-
# Binary floating point numbers

A number `m · 2 ^ e` with at most 53 binary digits, as a numeral is rounded to when it is not an
integer of 64 bits.  All roundings are exact computations on natural numbers.

* `Binary64.nearest?`: a quotient rounded to the nearest number, ties to the even one.
* `Binary64.ofDecimal?`: the number a numeral stands for.
-/
namespace LintBridge

/-- The quotient rounded to the nearest integer; a tie goes to the even one. -/
def roundHalfEven (num den : Nat) : Nat :=
  let q := num / den
  let twice := 2 * (num % den)
  if twice < den then q else if den < twice then q + 1 else q + q % 2

/-- A magnitude `mantissa · 2 ^ exponent` with a sign. -/
structure Binary64 where
  /-- Whether the number has a minus sign; zero may have one too. -/
  negative : Bool
  /-- The binary digits. -/
  mantissa : Nat
  /-- The place of the last binary digit. -/
  exponent : Int
deriving DecidableEq, Repr, Inhabited

namespace Binary64

/-- `n · 2 ^ e / (d · 2 ^ e)` with the power on the side where it is a whole number. -/
def scale (n d : Nat) (e : Int) : Nat × Nat :=
  if 0 ≤ e then (n, d * Nat.pow 2 e.toNat) else (n * Nat.pow 2 (-e).toNat, d)

/-- The quotient `n / d` rounded to 53 binary digits, with the last place not below `2 ^ -1074`;
nothing when the result is out of range. -/
def nearest? (n d : Nat) : Option (Nat × Int) :=
  if n = 0 then some (0, 0)
  else
    let guess : Int := (Nat.log2 n : Int) - (Nat.log2 d : Int) - 52
    let (gn, gd) := scale n d guess
    let e := max (if gn < gd * Nat.pow 2 52 then guess - 1 else guess) (-1074)
    let (sn, sd) := scale n d e
    let m := roundHalfEven sn sd
    let (m, e) := if m = Nat.pow 2 53 then (Nat.pow 2 52, e + 1) else (m, e)
    if 971 < e then none else some (m, e)

/-- A magnitude as a quotient of natural numbers. -/
def ratio : Nat × Int → Nat × Nat
  | (m, e) => if 0 ≤ e then (m * Nat.pow 2 e.toNat, 1) else (m, Nat.pow 2 (-e).toNat)

/-- The rounded product. -/
def mul? (a b : Nat × Int) : Option (Nat × Int) :=
  nearest? ((ratio a).1 * (ratio b).1) ((ratio a).2 * (ratio b).2)

/-- The rounded quotient. -/
def div? (a b : Nat × Int) : Option (Nat × Int) :=
  nearest? ((ratio a).1 * (ratio b).2) ((ratio a).2 * (ratio b).1)

/-- The rounded quotient by `10 ^ k`, in steps of at most `10 ^ 308`, of which `steps` are left
before the quotient is zero. -/
def divPowTen? : Nat → Nat × Int → Nat → Option (Nat × Int)
  | 0, _, _ => some (0, 0)
  | steps + 1, a, k =>
    if k ≤ 308 then do div? a (← nearest? (Nat.pow 10 k) 1)
    else if a.1 = 0 then some a
    else do divPowTen? steps (← div? a (← nearest? (Nat.pow 10 308) 1)) (k - 308)

/-- The number `digits · 10 ^ exponent`, for digits that fit in 64 bits: the digits are rounded
first, then the product or quotient with the power of ten; nothing when it is out of range. -/
def ofDecimal? (negative : Bool) (digits : Nat) (exponent : Int) : Option Binary64 := do
  let a ← nearest? digits 1
  let (m, e) ←
    if 0 ≤ exponent then
      if exponent ≤ 308 then do mul? a (← nearest? (Nat.pow 10 exponent.toNat) 1)
      else if a.1 = 0 then some a
      else none
    else divPowTen? 4 a (-exponent).toNat
  return ⟨negative, m, e⟩

end Binary64

end LintBridge
