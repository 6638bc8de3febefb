/-
# Formatted output

* `Shell.unescape`: a text with its escapes resolved.
* `Shell.format`: a format with its arguments filled in.
-/
import LintBridge.Decimal.Places
import LintBridge.Shell.Numeral

namespace LintBridge.Shell

/-! ## Escapes -/

/-- Whether a character is an octal digit. -/
def isOctal (c : Char) : Bool := '0' ≤ c && c ≤ '7'

/-- At most `n` octal digits make a byte; the text after them. -/
def octal (n : Nat) (s : Octets) : Char × Octets :=
  let ds := (s.take n).takeWhile isOctal
  (Octets.byte (Numeral.ofDigits 8 ds), s.drop ds.length)

/-- The character that a letter after a backslash stands for. -/
def letterEscape? : Char → Option Char
  | 'a' => some '\x07'
  | 'b' => some '\x08'
  | 'e' => some '\x1b'
  | 'f' => some '\x0c'
  | 'n' => some '\n'
  | 'r' => some '\r'
  | 't' => some '\t'
  | 'v' => some '\x0b'
  | '\\' => some '\\'
  | _ => none

/-- The character that the text after a backslash stands for, and what follows.  A backslash without
a meaning stands for itself. -/
def escape (s : Octets) : Char × Octets :=
  match s with
  | [] => ('\\', [])
  | c :: rest =>
    if isOctal c then octal 3 s
    else
      match letterEscape? c with
      | some x => (x, rest)
      | none => ('\\', s)

/-- A text with its escapes resolved, and whether an escape ends all output.  An octal number may
have a zero more in front. -/
def unescape : Nat → Octets → Octets × Bool
  | 0, s => (s, false)
  | _, [] => ([], false)
  | _ + 1, '\\' :: 'c' :: _ => ([], true)
  | fuel + 1, '\\' :: '0' :: rest =>
    let (c, rest) := octal 3 rest
    let (more, ended) := unescape fuel rest
    (c :: more, ended)
  | fuel + 1, '\\' :: rest =>
    let (c, rest) := escape rest
    let (more, ended) := unescape fuel rest
    (c :: more, ended)
  | fuel + 1, c :: rest =>
    let (more, ended) := unescape fuel rest
    (c :: more, ended)

/-! ## Directives -/

/-- How an argument is to be written. -/
structure Directive where
  /-- At the left of its space. -/
  left : Bool
  /-- With a sign in any case. -/
  signed : Bool
  /-- With a blank in place of a plus sign. -/
  spaced : Bool
  /-- With a mark of its base, or with all its digits. -/
  marked : Bool
  /-- With zeros in front. -/
  zeros : Bool
  /-- The least number of characters. -/
  width : Nat
  /-- The number of digits or the greatest number of characters. -/
  precision : Option Nat
  kind : Char

namespace Directive

/-- A text filled up with blanks to the width. -/
def pad (d : Directive) (s : Octets) : Octets :=
  let space := List.replicate (d.width - s.length) ' '
  if d.left then s ++ space else space ++ s

/-- A number, with zeros between its sign and its digits if `filled` is true. -/
def number (d : Directive) (filled : Bool) (sign digits : Octets) : Octets :=
  if filled && d.zeros && !d.left then
    sign ++ List.replicate (d.width - sign.length - digits.length) '0' ++ digits
  else d.pad (sign ++ digits)

/-- The sign of a number. -/
def sign (d : Directive) (negative : Bool) : Octets :=
  if negative then ['-'] else if d.signed then ['+'] else if d.spaced then [' '] else []

/-- The digits of a number, at least as many as the precision says. -/
def digits (d : Directive) (base n : Nat) : Octets :=
  let ds := if n = 0 && d.precision = some 0 then [] else Nat.toDigits base n
  List.replicate (d.precision.getD 1 - ds.length) '0' ++ ds

/-- An integer with a sign. -/
def integer (d : Directive) (n : Int) : Octets :=
  d.number d.precision.isNone (d.sign (n < 0)) (d.digits 10 n.natAbs)

/-- An integer without a sign. -/
def natural (d : Directive) (n : Nat) : Octets :=
  let upper (s : Octets) : Octets := if d.kind = 'X' then s.map Char.toUpper else s
  match d.kind with
  | 'u' => d.number d.precision.isNone [] (d.digits 10 n)
  | 'o' =>
    let ds := d.digits 8 n
    let ds := if d.marked && ds.head? ≠ some '0' then '0' :: ds else ds
    d.number d.precision.isNone [] ds
  | _ =>
    let base := if d.marked && n ≠ 0 then ['0', 'x'] else []
    d.number d.precision.isNone (upper base) (upper (d.digits 16 n))

/-- The binary number with hexadecimal digits. -/
def hexadecimal (mantissa : Nat) (exponent : Int) : Octets :=
  if mantissa = 0 then "0x0p+0".toList
  else
    let top := Nat.log2 mantissa
    let fraction := (mantissa - Nat.pow 2 top) * Nat.pow 2 (52 - top)
    let ds := Nat.toDigits 16 (fraction + Nat.pow 2 52)
    let ds := (ds.drop 1).reverse.dropWhile (· = '0')
    let power := exponent + top
    "0x1".toList ++ (if ds.isEmpty then [] else '.' :: ds.reverse) ++
      'p' :: (if 0 ≤ power then '+' else '-') :: Nat.toDigits 10 power.natAbs

/-- A number with a fraction. -/
def real (d : Directive) (negative : Bool) (m : Magnitude) : Octets :=
  let upper (s : Octets) : Octets := if d.kind.isUpper then s.map Char.toUpper else s
  let places := d.precision.getD 6
  match m with
  | .infinite => d.number false (d.sign negative) (upper "inf".toList)
  | .undefined => d.number false (d.sign negative) (upper "nan".toList)
  | .finite m e =>
    let (n, den) := Binary64.ratio (m, e)
    let text :=
      match d.kind.toLower with
      | 'f' => Decimal.fixed places d.marked n den
      | 'e' => Decimal.scientific places d.marked n den
      | 'g' => Decimal.general places d.marked n den
      | _ => hexadecimal m e
    d.number true (d.sign negative) (upper text)

end Directive

/-! ## Arguments -/

/-- What has been made of a format. -/
structure Filling where
  /-- What is printed. -/
  out : Octets := []
  /-- The arguments that are left. -/
  args : List Octets
  /-- What was wrong with the arguments so far. -/
  complaints : List String := []

/-- How the use of a format ends. -/
inductive FormatEnd where
  /-- At its end. -/
  | complete
  /-- At an escape that ends all output. -/
  | stopped
  /-- At something that is no directive. -/
  | refused (reason : String)
deriving DecidableEq, Repr

namespace Filling

/-- Print a text. -/
def print (f : Filling) (s : Octets) : Filling := { f with out := f.out ++ s }

/-- Complain about an argument that was read up to the given rest. -/
def check (f : Filling) (a rest : Octets) (inRange : Bool) : Filling :=
  let complain (reason : String) : Filling :=
    { f with complaints := f.complaints ++ [Octets.decode a ++ ": " ++ reason] }
  if !rest.isEmpty then
    complain
      (if rest.length = a.length then "expected numeric value" else "not completely converted")
  else if inRange then f
  else complain "Numerical result out of range"

/-- The code of the character after a quotation mark at the front. -/
def quotedCode? : Octets → Option Nat
  | '"' :: rest => some ((rest.head?.map Char.toNat).getD 0)
  | '\x27' :: rest => some ((rest.head?.map Char.toNat).getD 0)
  | _ => none

/-- The next argument as a number between the bounds; without one it is zero. -/
def takeNumber (low high : Int) (f : Filling) : Int × Filling :=
  match f.args with
  | [] => (0, f)
  | a :: args =>
    let f := { f with args := args }
    match quotedCode? a, Numeral.leading? true a with
    | some code, _ => (code, f)
    | none, none => (0, f.check a a true)
    | none, some (n, rest) =>
      (if n < low then low else if high < n then high else n,
        f.check a rest (low ≤ n && n ≤ high))

/-- The next argument as a number without a sign. -/
def takeNatural (f : Filling) : Nat × Filling :=
  let high : Int := Numeral.count - 1
  let (n, f) := f.takeNumber (-high) high
  (Numeral.bits n, f)

/-- The next argument as a number with a fraction. -/
def takeReal (f : Filling) : (Bool × Magnitude) × Filling :=
  match f.args with
  | [] => ((false, .finite 0 0), f)
  | a :: args =>
    let f := { f with args := args }
    let body := a.dropWhile Numeral.isSpace
    let negative := body.head? = some '-'
    let body := (Numeral.signOf body).2
    let isHex := body.head? = some '0' && (body[1]?.map Char.toLower) = some 'x'
    match quotedCode? a with
    | some code => ((false, .finite code 0), f)
    | none =>
      match isHex, Numeral.leading? true body, Decimal.read? body with
      | true, some (n, rest), _ => ((negative, .finite n.toNat 0), f.check a rest true)
      | _, _, some (m, far, rest) => ((negative, m), f.check a rest (!far))
      | _, _, none => ((false, .finite 0 0), f.check a a true)

/-- A width or a precision: digits of the format, or the next argument after a star. -/
def takeSize (s : Octets) (f : Filling) : Option Int × Octets × Filling :=
  match s with
  | '*' :: rest =>
    let (n, f) := f.takeNumber Numeral.least Numeral.greatest
    (some n, rest, f)
  | s =>
    let ds := s.takeWhile Char.isDigit
    (if ds.isEmpty then none else some (Numeral.ofDigits 10 ds), s.drop ds.length, f)

/-- The directive after a percent sign, with what follows it. -/
def directive (s : Octets) (f : Filling) : Option (Directive × Octets) × Filling :=
  let isFlag (c : Char) : Bool := ['#', '-', '+', ' ', '0'].contains c
  let flags := s.takeWhile isFlag
  let (width, s, f) := f.takeSize (s.dropWhile isFlag)
  let (precision, s, f) : Option Int × Octets × Filling :=
    match s with
    | '.' :: s =>
      let (n, s, f) := f.takeSize s
      (some (n.getD 0), s, f)
    | s => (none, s, f)
  match s with
  | [] => (none, f)
  | kind :: rest =>
    let w := width.getD 0
    (some (⟨flags.contains '-' || w < 0, flags.contains '+', flags.contains ' ',
      flags.contains '#', flags.contains '0', w.natAbs,
      (precision.filter fun n => 0 ≤ n).map Int.toNat, kind⟩, rest), f)

/-- Print an argument as a directive says; none if there is no such directive. -/
def follow (d : Directive) (f : Filling) : Option FormatEnd × Filling :=
  let cut (s : Octets) : Octets := (d.precision.map fun n => s.take n).getD s
  let next := f.args.headD []
  let behind : Filling := { f with args := f.args.tail }
  match d.kind with
  | 's' => (none, behind.print (d.pad (cut next)))
  | 'b' =>
    let (text, ended) := unescape (next.length + 1) next
    (if ended then some .stopped else none, behind.print (d.pad (cut text)))
  | 'c' => (none, behind.print (d.pad [next.headD '\x00']))
  | kind =>
    if kind = 'd' || kind = 'i' then
      let (n, f) := f.takeNumber Numeral.least Numeral.greatest
      (none, f.print (d.integer n))
    else if ['o', 'u', 'x', 'X'].contains kind then
      let (n, f) := f.takeNatural
      (none, f.print (d.natural n))
    else if ['a', 'A', 'e', 'E', 'f', 'F', 'g', 'G'].contains kind then
      let ((negative, m), f) := f.takeReal
      (none, f.print (d.real negative m))
    else (some (.refused ""), f)

/-- One time through a format. -/
def once : Nat → Octets → Filling → FormatEnd × Filling
  | 0, _, f => (.complete, f)
  | _, [], f => (.complete, f)
  | fuel + 1, '\\' :: rest, f =>
    let (c, rest) := escape rest
    once fuel rest (f.print [c])
  | fuel + 1, '%' :: '%' :: rest, f => once fuel rest (f.print ['%'])
  | fuel + 1, '%' :: s, f =>
    match f.directive s with
    | (none, f) => (.refused "missing format character", f)
    | (some (d, rest), f) =>
      match f.follow d with
      | (none, f) => once fuel rest f
      | (some (.refused _), f) =>
        let text := '%' :: s.take (s.length - rest.length)
        (.refused (Octets.decode text ++ ": invalid directive"), f)
      | (some ended, f) => (ended, f)
  | fuel + 1, c :: rest, f => once fuel rest (f.print [c])

/-- A format again and again, as long as it takes arguments and there are any. -/
def again (format : Octets) : Nat → Filling → FormatEnd × Filling
  | 0, f => (.complete, f)
  | rounds + 1, f =>
    match once (format.length + 1) format f with
    | (.complete, after) =>
      if after.args.isEmpty || after.args.length = f.args.length then (.complete, after)
      else again format rounds after
    | stopped => stopped

end Filling

/-- A format with its arguments filled in. -/
def format (f : Octets) (as : List Octets) : FormatEnd × Filling :=
  Filling.again f (as.length + 1) { args := as }

end LintBridge.Shell
