/-
# Tokens of commented JSON

JSON for people to write: comments, strings in either quote, bare words as keys, signs before
numbers and hexadecimal numbers.

* `Jsonc.Token`: the tokens.
* `Jsonc.nextToken`: the first token of a text.
* `Jsonc.tokens`: all tokens of a text, up to the first problem.
-/
import LintBridge.Json.Scan
import LintBridge.Jsonc.Fault
import LintBridge.Text.Alphanumeric
import LintBridge.Text.Blank

namespace LintBridge.Jsonc

/-- A token. -/
inductive Token where
  | openBrace
  | closeBrace
  | openBracket
  | closeBracket
  | comma
  | colon
  | string (value : String)
  | word (text : List Char)
  | number (text : List Char)
  | bool (value : Bool)
  | null
deriving DecidableEq, Repr

/-! ## White space and comments -/

/-- Where the passing over white space and comments stands. -/
inductive Gap where
  /-- Outside of comments. -/
  | outside
  /-- In a comment that ends with its line. -/
  | line
  /-- In a comment that ends with its closing mark. -/
  | block
deriving DecidableEq, Repr

/-- Pass over white space and comments. -/
def skipGap : Gap → List Char → Except Fault (List Char)
  | .outside, '/' :: '/' :: rest => skipGap .line rest
  | .outside, '/' :: '*' :: rest => skipGap .block rest
  | .outside, c :: rest => if Text.isBlank c then skipGap .outside rest else .ok (c :: rest)
  | .outside, [] => .ok []
  | .line, '\n' :: rest => skipGap .outside rest
  | .line, _ :: rest => skipGap .line rest
  | .line, [] => .ok []
  | .block, '*' :: '/' :: rest => skipGap .outside rest
  | .block, _ :: rest => skipGap .block rest
  | .block, [] => .error .unterminatedComment

/-! ## Strings -/

/-- What was read and the text that is left. -/
abbrev Scanned (α : Type) := Except Fault (α × List Char)

/-- Four hexadecimal digits after `\u`, as a number and as written. -/
def unicodeDigits : List Char → Scanned (Nat × String)
  | a :: b :: c :: d :: rest =>
    match Json.hexValue4? a b c d with
    | some n => .ok ((n, String.ofList [a, b, c, d]), rest)
    | none => .error .shortUnicodeEscape
  | _ => .error .shortUnicodeEscape

/-- The character of an escape after `\u`, with the other half if it is the first of a pair. -/
def unicodeEscape (s : List Char) : Scanned Char :=
  match unicodeDigits s with
  | .error e => .error e
  | .ok ((n, digits), rest) =>
    if Json.isLowSurrogate n then .error (.lowSurrogateAlone digits)
    else if Json.isHighSurrogate n then
      match rest with
      | '\\' :: 'u' :: rest =>
        match unicodeDigits rest with
        | .error e => .error e
        | .ok ((low, _), rest) =>
          if Json.isLowSurrogate low then .ok (Char.ofNat (Json.pairValue n low), rest)
          else .error (.highSurrogateUnmatched digits)
      | _ => .error (.highSurrogateAlone digits)
    else .ok (Char.ofNat n, rest)

/-- The character after a backslash in a string between the given quotes. -/
def escape (quote : Char) : List Char → Scanned Char
  | [] => .error .unterminatedString
  | c :: rest =>
    if c = 'u' then unicodeEscape rest
    else if c = quote then .ok (c, rest)
    else if c = '"' then .error .doubleQuoteEscaped
    else if c = '\x27' then .error .singleQuoteEscaped
    else
      match Json.simpleEscape? c with
      | some x => .ok (x, rest)
      | none => .error .badEscape

/-- A string up to its closing quote, with at most as many characters as the budget has; those read
so far are kept in reverse. -/
def stringBody (quote : Char) : List Char → List Char → List Char → Scanned String
  | _ :: budget, read, c :: rest =>
    if c = quote then .ok (String.ofList read.reverse, rest)
    else if c = '\\' then
      match escape quote rest with
      | .error e => .error e
      | .ok (x, rest) => stringBody quote budget (x :: read) rest
    else stringBody quote budget (c :: read) rest
  | _, _, _ => .error .unterminatedString

/-! ## Numbers -/

/-- At least one digit of the given kind, or else the given problem. -/
def digits (isDigit : Char → Bool) (fault : Fault) (s : List Char) : Scanned (List Char) :=
  match s.takeWhile isDigit with
  | [] => .error fault
  | ds => .ok (ds, s.dropWhile isDigit)

/-- A point and the digits after it, if there are any. -/
def fraction : List Char → Scanned (List Char)
  | '.' :: rest => (digits Json.isDigit .noDigit rest).map fun r => ('.' :: r.1, r.2)
  | s => .ok ([], s)

/-- The letter, the sign and the digits of an exponent, if there is one. -/
def exponent : List Char → Scanned (List Char)
  | [] => .ok ([], [])
  | e :: rest =>
    if e = 'e' || e = 'E' then
      match rest with
      | sign :: more =>
        if sign = '-' || sign = '+' then
          (digits Json.isDigit .noDigit more).map fun r => (e :: sign :: r.1, r.2)
        else (digits Json.isDigit .badExponent rest).map fun r => (e :: r.1, r.2)
      | [] => .error .badExponent
    else .ok ([], e :: rest)

/-- The fraction and the exponent after the given text of a number. -/
def numberTail (whole s : List Char) : Except Fault (List Char × List Char) := do
  let (f, s) ← fraction s
  let (e, s) ← exponent s
  .ok (whole ++ f ++ e, s)

/-- A number without its sign. -/
def unsigned : List Char → Except Fault (List Char × List Char)
  | '0' :: x :: rest =>
    if x = 'x' || x = 'X' then
      (digits (fun c => (Json.hexValue? c).isSome) .noDigit rest).map fun r =>
        ('0' :: x :: r.1, r.2)
    else numberTail ['0'] (x :: rest)
  | '0' :: [] => .ok (['0'], [])
  | s => do
    let (ds, s) ← digits Json.isDigit .noDigitAfterSign s
    numberTail ds s

/-- A number. -/
def number : List Char → Scanned (List Char)
  | '-' :: rest => (unsigned rest).map fun r => ('-' :: r.1, r.2)
  | '+' :: rest => (unsigned rest).map fun r => ('+' :: r.1, r.2)
  | s => unsigned s

/-! ## Words -/

/-- What follows a literal; another letter or digit makes it a part of a longer word. -/
def afterLiteral : List Char → List Char → Option (List Char)
  | [], [] => some []
  | [], c :: rest => if Text.isAlphanumeric c then none else some (c :: rest)
  | _ :: _, [] => none
  | l :: ls, c :: rest => if l = c then afterLiteral ls rest else none

/-- Whether a character ends a word. -/
def endsWord (c : Char) : Bool := Text.isBlank c || c = ':'

/-- Whether a character may stand in a word. -/
def inWord (c : Char) : Bool := Text.isAlphanumeric c || c = '-' || c = '_'

/-- A word. -/
def word (s : List Char) : Scanned Token :=
  match s.takeWhile fun c => !endsWord c with
  | [] => .error .unexpectedToken
  | w => if w.all inWord then .ok (.word w, s.dropWhile fun c => !endsWord c)
    else .error .unexpectedToken

/-- The literals with their tokens. -/
def literals : List (List Char × Token) :=
  [(['t', 'r', 'u', 'e'], .bool true), (['f', 'a', 'l', 's', 'e'], .bool false),
    (['n', 'u', 'l', 'l'], .null)]

/-- A literal or a word. -/
def literalOrWord (s : List Char) : Scanned Token :=
  match literals.findSome? fun l => (afterLiteral l.1 s).map fun rest => (l.2, rest) with
  | some r => .ok r
  | none => word s

/-! ## Tokens -/

/-- The token that starts with the character `c`. -/
def tokenFrom (c : Char) (rest : List Char) : Scanned Token :=
  match c with
  | '{' => .ok (.openBrace, rest)
  | '}' => .ok (.closeBrace, rest)
  | '[' => .ok (.openBracket, rest)
  | ']' => .ok (.closeBracket, rest)
  | ',' => .ok (.comma, rest)
  | ':' => .ok (.colon, rest)
  | '/' => .error .unexpectedToken
  | c =>
    if c = '"' || c = '\x27' then (stringBody c rest [] rest).map fun r => (.string r.1, r.2)
    else if c = '-' || c = '+' || Json.isDigit c then
      (number (c :: rest)).map fun r => (.number r.1, r.2)
    else literalOrWord (c :: rest)

/-- The first token of a text; none if there is only white space and comments. -/
def nextToken (s : List Char) : Except Fault (Option (Token × List Char)) :=
  match skipGap .outside s with
  | .error e => .error e
  | .ok [] => .ok none
  | .ok (c :: rest) => (tokenFrom c rest).map some

/-- The tokens of a text, at most as many as the budget has characters. -/
def tokensWithin : List Char → List Char → List (Except Fault Token)
  | [], _ => []
  | _ :: budget, s =>
    match nextToken s with
    | .error e => [.error e]
    | .ok none => []
    | .ok (some (t, rest)) => .ok t :: tokensWithin budget rest

/-- The tokens of a text, up to the first problem.  A token takes something off the text, so there
are at most as many as it has characters. -/
def tokens (s : List Char) : List (Except Fault Token) := tokensWithin s s

end LintBridge.Jsonc
