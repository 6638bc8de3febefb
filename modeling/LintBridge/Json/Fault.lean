/-
# What can be wrong with a JSON text

A reader works from left to right and stops at the first problem it meets.  Some problems are about
the syntax, the others about a value that is not of the kind that was asked for.

* `Json.Fault`: the problems.
* `Json.Fault.message`: their wording.
-/
import LintBridge.Json.Value
import LintBridge.Text.Quoted

namespace LintBridge.Json

/-- A value that was met where another kind was wanted.  Arrays and objects are judged by their
first character, so nothing is known of what they hold. -/
inductive Found where
  | null
  | bool (value : Bool)
  | number (value : Number)
  | string (value : String)
  | array
  | object
deriving DecidableEq, Repr

/-- The description of a value that was met. -/
def Found.text : Found → String
  | null => "null"
  | bool b => "boolean `" ++ (if b then "true" else "false") ++ "`"
  | number (.real x) => "floating point `" ++ String.ofList (Number.real x).text ++ "`"
  | number n => "integer `" ++ String.ofList n.text ++ "`"
  | string s => "string " ++ Text.quote s
  | array => "sequence"
  | object => "map"

/-- A problem with a JSON text. -/
inductive Fault where
  /-- The text ends where a value is due or inside a number or a literal. -/
  | endInValue
  /-- The text ends inside an array. -/
  | endInArray
  /-- The text ends inside an object. -/
  | endInObject
  /-- The text ends inside a string. -/
  | endInString
  /-- No value starts here. -/
  | expectedValue
  /-- A literal is misspelled. -/
  | expectedLiteral
  | expectedColon
  /-- Neither a comma nor the end of the array follows an item. -/
  | expectedItemEnd
  /-- Neither a comma nor the end of the object follows a member. -/
  | expectedMemberEnd
  | trailingComma
  /-- Something follows the value. -/
  | trailingText
  | keyNotString
  | badNumber
  /-- A number is too large for a floating point number. -/
  | numberTooLarge
  | badEscape
  | controlCharacter
  /-- The first half of a surrogate pair is not followed by an escape. -/
  | halfPair
  /-- Half a surrogate pair stands where the other half or none is due. -/
  | loneSurrogate
  /-- Arrays and objects are nested too deeply. -/
  | tooDeep
  /-- A value of another kind was wanted. -/
  | wrongType (found : Found) (want : String)
  /-- A number does not fit. -/
  | outOfRange (number : Number) (want : String)
  /-- A name is none of the known ones. -/
  | unknownName (name : String) (known : List String)
  | duplicateMember (name : String)
  | missingMember (name : String)
  /-- An array has too few or too many items. -/
  | wrongLength (length : Nat) (want : String)
  /-- A number is no severity. -/
  | badSeverity (code : Nat)
deriving DecidableEq, Repr

/-- The list of the known names in a message. -/
def knownNames : List String → String
  | [a] => "`" ++ a ++ "`"
  | [a, b] => "`" ++ a ++ "` or `" ++ b ++ "`"
  | names => "one of " ++ ", ".intercalate (names.map fun n => "`" ++ n ++ "`")

/-- The wording of a problem. -/
def Fault.message : Fault → String
  | endInValue => "EOF while parsing a value"
  | endInArray => "EOF while parsing a list"
  | endInObject => "EOF while parsing an object"
  | endInString => "EOF while parsing a string"
  | expectedValue => "expected value"
  | expectedLiteral => "expected ident"
  | expectedColon => "expected `:`"
  | expectedItemEnd => "expected `,` or `]`"
  | expectedMemberEnd => "expected `,` or `\x7d`"
  | trailingComma => "trailing comma"
  | trailingText => "trailing characters"
  | keyNotString => "key must be a string"
  | badNumber => "invalid number"
  | numberTooLarge => "number out of range"
  | badEscape => "invalid escape"
  | controlCharacter => "control character (\\u0000-\\u001F) found while parsing a string"
  | halfPair => "unexpected end of hex escape"
  | loneSurrogate => "lone leading surrogate in hex escape"
  | tooDeep => "recursion limit exceeded"
  | wrongType found want => "invalid type: " ++ found.text ++ ", expected " ++ want
  | outOfRange n want => "invalid value: " ++ (Found.number n).text ++ ", expected " ++ want
  | unknownName name known => "unknown variant `" ++ name ++ "`, expected " ++ knownNames known
  | duplicateMember name => "duplicate field `" ++ name ++ "`"
  | missingMember name => "missing field `" ++ name ++ "`"
  | wrongLength n want =>
    "invalid length " ++ String.ofList (Nat.toDigits 10 n) ++ ", expected " ++ want
  | badSeverity code => "invalid severity code: " ++ String.ofList (Nat.toDigits 10 code)

end LintBridge.Json
