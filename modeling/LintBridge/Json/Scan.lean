/-
# Scanning JSON

The pieces a JSON text is made of: white space, literals, strings and numbers.  Every scanner takes
the text that is left, and gives what it read with what is left after it.

* `Json.repeatedly`: a scanner that works in turns, each of which takes something off the text.
* `Json.stringBody`: a string after its opening quote.
* `Json.readNumber`: a number.
-/
import LintBridge.Json.Fault

namespace LintBridge.Json

/-- A scanner gives what it read and the text that is left. -/
abbrev Reader (α : Type) := List Char → Except Fault (α × List Char)

/-- White space between the tokens of a JSON text. -/
def isSpace (c : Char) : Bool := c = ' ' || c = '\n' || c = '\t' || c = '\r'

/-- The text from the first character that is no white space on. -/
def skipSpaces (s : List Char) : List Char := s.dropWhile isSpace

/-! ## Working in turns -/

/-- What one turn comes to: another turn with a new state, or a result. -/
inductive Turn (σ τ : Type) where
  | again (state : σ) (rest : List Char)
  | done (result : τ) (rest : List Char)

/-- Take turns, at most one for each character of the first list. -/
def takeTurns {σ τ : Type} (turn : σ → List Char → Except Fault (Turn σ τ)) :
    List Char → σ → Reader τ
  | [], _, _ => .error .endInValue
  | _ :: budget, state, s =>
    match turn state s with
    | .error e => .error e
    | .ok (.done result rest) => .ok (result, rest)
    | .ok (.again state rest) => takeTurns turn budget state rest

/-- Take turns until there is a result.  A turn that leads to another one takes something off the
text, so a turn for every character and one for its end suffice. -/
def repeatedly {σ τ : Type} (turn : σ → List Char → Except Fault (Turn σ τ)) (start : σ) :
    Reader τ :=
  fun s => takeTurns turn (' ' :: s) start s

/-! ## Literals -/

/-- The rest of a literal. -/
def readLetters : List Char → List Char → Except Fault (List Char)
  | [], s => .ok s
  | _ :: _, [] => .error .endInValue
  | l :: ls, c :: s => if l = c then readLetters ls s else .error .expectedLiteral

/-! ## Strings -/

/-- The value of a hexadecimal digit. -/
def hexValue? (c : Char) : Option Nat :=
  if '0' ≤ c && c ≤ '9' then some (c.toNat - '0'.toNat)
  else if 'a' ≤ c && c ≤ 'f' then some (c.toNat - 'a'.toNat + 10)
  else if 'A' ≤ c && c ≤ 'F' then some (c.toNat - 'A'.toNat + 10)
  else none

/-- The value of four hexadecimal digits. -/
def hexValue4? (a b c d : Char) : Option Nat := do
  return (((← hexValue? a) * 16 + (← hexValue? b)) * 16 + (← hexValue? c)) * 16 + (← hexValue? d)

/-- Four hexadecimal digits.  Without four more bytes in the text it ends too early, and the escape
is wrong otherwise. -/
def readHex4 : Reader Nat
  | a :: b :: c :: d :: rest =>
    match hexValue4? a b c d with
    | some n => .ok (n, rest)
    | none => .error .badEscape
  | s =>
    if (String.ofList s).utf8ByteSize < 4 then .error .endInString else .error .badEscape

/-- Whether a number is the first half of a surrogate pair. -/
def isHighSurrogate (n : Nat) : Bool := 0xD800 ≤ n && n ≤ 0xDBFF

/-- Whether a number is the second half of a surrogate pair. -/
def isLowSurrogate (n : Nat) : Bool := 0xDC00 ≤ n && n ≤ 0xDFFF

/-- The code point of a surrogate pair. -/
def pairValue (high low : Nat) : Nat := (high - 0xD800) * 0x400 + (low - 0xDC00) + 0x10000

/-- The character a single letter after a backslash stands for. -/
def simpleEscape? : Char → Option Char
  | '"' => some '"'
  | '\\' => some '\\'
  | '/' => some '/'
  | 'b' => some '\x08'
  | 'f' => some '\x0c'
  | 'n' => some '\n'
  | 'r' => some '\r'
  | 't' => some '\t'
  | _ => none

/-- The escape of a code unit after `\u`, with the other half if it is the first of a pair. -/
def readUnicodeEscape : Reader Char := fun s => do
  let (n, rest) ← readHex4 s
  if isLowSurrogate n then .error .loneSurrogate
  else if isHighSurrogate n then
    match rest with
    | [] => .error .endInString
    | '\\' :: [] => .error .endInString
    | '\\' :: 'u' :: rest =>
      let (low, rest) ← readHex4 rest
      if isLowSurrogate low then .ok (Char.ofNat (pairValue n low), rest)
      else .error .loneSurrogate
    | _ => .error .halfPair
  else .ok (Char.ofNat n, rest)

/-- The escape after a backslash. -/
def readEscape : Reader Char
  | [] => .error .endInString
  | 'u' :: rest => readUnicodeEscape rest
  | c :: rest =>
    match simpleEscape? c with
    | some x => .ok (x, rest)
    | none => .error .badEscape

/-- One character of a string, or its end; the characters read so far are kept in reverse. -/
def stringTurn (read : List Char) : List Char → Except Fault (Turn (List Char) String)
  | [] => .error .endInString
  | '"' :: rest => .ok (.done (String.ofList read.reverse) rest)
  | '\\' :: rest =>
    match readEscape rest with
    | .error e => .error e
    | .ok (c, rest) => .ok (.again (c :: read) rest)
  | c :: rest => if c.toNat < 32 then .error .controlCharacter else .ok (.again (c :: read) rest)

/-- A string after its opening quote. -/
def stringBody : Reader String := repeatedly stringTurn []

/-! ## Numbers -/

/-- Whether a character is a decimal digit. -/
def isDigit (c : Char) : Bool := '0' ≤ c && c ≤ '9'

/-- The value of a decimal digit. -/
def digitValue (c : Char) : Nat := c.toNat - '0'.toNat

/-- Digits are taken while their number fits in 64 bits; the others are left. -/
def takeFitting : Nat → List Char → Nat × List Char
  | n, [] => (n, [])
  | n, d :: ds =>
    if n * 10 + digitValue d < Nat.pow 2 64 then takeFitting (n * 10 + digitValue d) ds
    else (n, d :: ds)

/-- The parts of a numeral. -/
structure Numeral where
  /-- Whether there is a minus sign. -/
  negative : Bool
  /-- The digits before the point. -/
  whole : List Char
  /-- The digits after the point, if there is one. -/
  fraction : Option (List Char)
  /-- The sign and the digits of the exponent, if there is one. -/
  exponent : Option (Bool × List Char)

/-- The number of a digit string. -/
def digitsValue (ds : List Char) : Nat := ds.foldl (fun n d => n * 10 + digitValue d) 0

/-- The floating point number of a numeral, from as many of its digits as fit in 64 bits. -/
def Numeral.real? (x : Numeral) : Option Number :=
  let (n, dropped) := takeFitting 0 x.whole
  let fraction := x.fraction.getD []
  let (m, ignored) := takeFitting n fraction
  let place : Int := (dropped.length : Int) - ((fraction.length - ignored.length : Nat) : Int)
  let shift : Int :=
    match x.exponent with
    | none => 0
    | some (true, ds) => -(digitsValue ds : Int)
    | some (false, ds) => digitsValue ds
  (Binary64.ofDecimal? x.negative m (place + shift)).map Number.real

/-- The number of a numeral: an integer if it has neither fraction nor exponent and fits in 64 bits,
else a floating point number; a minus sign before zero makes it one, too. -/
def Numeral.number? (x : Numeral) : Option Number :=
  match x.fraction, x.exponent with
  | none, none =>
    let n := digitsValue x.whole
    if x.negative then
      if 0 < n ∧ n ≤ Nat.pow 2 63 then some (.negative n) else x.real?
    else if n < Nat.pow 2 64 then some (.natural n)
    else x.real?
  | _, _ => x.real?

/-- The problem with a numeral that breaks off before the given text. -/
def brokenNumber (rest : List Char) : Fault := if rest.isEmpty then .endInValue else .badNumber

/-- The digits before the point: a zero alone, or digits that start with another one. -/
def readWhole : Reader (List Char)
  | [] => .error .endInValue
  | '0' :: rest =>
    match rest with
    | d :: _ => if isDigit d then .error .badNumber else .ok (['0'], rest)
    | [] => .ok (['0'], [])
  | c :: rest =>
    if isDigit c then .ok (c :: rest.takeWhile isDigit, rest.dropWhile isDigit)
    else .error .badNumber

/-- At least one digit. -/
def readDigits : Reader (List Char) := fun s =>
  match s.takeWhile isDigit with
  | [] => .error (brokenNumber s)
  | ds => .ok (ds, s.dropWhile isDigit)

/-- The digits after a point, if there is one. -/
def readFraction : Reader (Option (List Char))
  | '.' :: rest => do
    let (ds, rest) ← readDigits rest
    .ok (some ds, rest)
  | s => .ok (none, s)

/-- The exponent, if there is one. -/
def readExponent : Reader (Option (Bool × List Char))
  | [] => .ok (none, [])
  | c :: rest =>
    if c = 'e' || c = 'E' then do
      let (negative, rest) :=
        match rest with
        | '-' :: rest => (true, rest)
        | '+' :: rest => (false, rest)
        | rest => (false, rest)
      let (ds, rest) ← readDigits rest
      .ok (some (negative, ds), rest)
    else .ok (none, c :: rest)

/-- The parts of a numeral. -/
def readNumeral : Reader Numeral := fun s => do
  let (negative, s) :=
    match s with
    | '-' :: s => (true, s)
    | s => (false, s)
  let (whole, s) ← readWhole s
  let (fraction, s) ← readFraction s
  let (exponent, s) ← readExponent s
  .ok (⟨negative, whole, fraction, exponent⟩, s)

/-- A number. -/
def readNumber : Reader Number := fun s => do
  let (x, rest) ← readNumeral s
  match x.number? with
  | some n => .ok (n, rest)
  | none => .error .numberTooLarge

/-- Whether a number starts with this character. -/
def startsNumber (c : Char) : Bool := c = '-' || isDigit c

end LintBridge.Json
