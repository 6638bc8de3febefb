/-
# What can be wrong with a commented JSON text

* `Jsonc.Fault`: the problems.
* `Jsonc.Fault.message`: their wording.
-/
namespace LintBridge.Jsonc

/-- A problem with a commented JSON text. -/
inductive Fault where
  /-- No token starts here, or a word has a character that does not belong into one. -/
  | unexpectedToken
  | unterminatedComment
  | unterminatedString
  | badEscape
  /-- A single quote is escaped between double quotes. -/
  | singleQuoteEscaped
  /-- A double quote is escaped between single quotes. -/
  | doubleQuoteEscaped
  /-- Fewer than four hexadecimal digits follow `\u`. -/
  | shortUnicodeEscape
  /-- The first half of a surrogate pair is not followed by an escape. -/
  | highSurrogateAlone (digits : String)
  /-- The first half of a surrogate pair is followed by something else than the second half. -/
  | highSurrogateUnmatched (digits : String)
  /-- The second half of a surrogate pair comes without the first. -/
  | lowSurrogateAlone (digits : String)
  | noDigitAfterSign
  | noDigit
  | badExponent
  | unexpectedCloseBrace
  | unexpectedCloseBracket
  | unexpectedComma
  | unexpectedColon
  | unexpectedWord
  /-- Neither a key nor the end of the object follows. -/
  | unexpectedInObject
  | expectedColon
  | expectedMemberValue
  | unterminatedObject
  | unterminatedArray
  /-- Something follows the value. -/
  | moreThanOneValue
deriving DecidableEq, Repr

/-- The message about half a surrogate pair. -/
def surrogateMessage (digits what : String) : String :=
  "Invalid unicode escape sequence. '" ++ digits ++ " (" ++ what ++
    ")' is not a valid UTF8 character"

/-- The wording of a problem. -/
def Fault.message : Fault → String
  | unexpectedToken => "Unexpected token"
  | unterminatedComment => "Unterminated comment block"
  | unterminatedString => "Unterminated string literal"
  | badEscape => "Invalid escape"
  | singleQuoteEscaped => "Invalid escape in double quote string"
  | doubleQuoteEscaped => "Invalid escape in single quote string"
  | shortUnicodeEscape => "Expected four hex digits"
  | highSurrogateAlone digits => surrogateMessage digits "unpaired high surrogate"
  | highSurrogateUnmatched digits =>
    surrogateMessage digits "high surrogate not followed by low surrogate"
  | lowSurrogateAlone digits => surrogateMessage digits "unpaired low surrogate"
  | noDigitAfterSign => "Expected digit following negative sign"
  | noDigit => "Expected digit"
  | badExponent => "Expected plus, minus, or digit in number literal"
  | unexpectedCloseBrace => "Unexpected close brace"
  | unexpectedCloseBracket => "Unexpected close bracket"
  | unexpectedComma => "Unexpected comma"
  | unexpectedColon => "Unexpected colon"
  | unexpectedWord => "Unexpected word"
  | unexpectedInObject => "Unexpected token in object"
  | expectedColon => "Expected colon after the string or word in object property"
  | expectedMemberValue => "Expected value after colon in object property"
  | unterminatedObject => "Unterminated object"
  | unterminatedArray => "Unterminated array"
  | moreThanOneValue => "Text cannot contain more than one JSON value"

end LintBridge.Jsonc
