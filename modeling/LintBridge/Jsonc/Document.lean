/-
# Documents of commented JSON

The tokens are worked off one by one.  The arrays and objects that are still open are kept in a
stack, so nothing limits their nesting.  Commas between items and members may be missing, and one
may follow the last of them.

* `Jsonc.read`: the value of a text; none for a text without tokens.
-/
import LintBridge.Json.Value
import LintBridge.Jsonc.Token

namespace LintBridge.Jsonc

/-- An array or object in which a value is being read. -/
inductive Frame where
  /-- An array with the items before the value, in reverse. -/
  | items (read : List Json)
  /-- An object with the members before the value, in reverse, and the key of the value. -/
  | members (read : List (String × Json)) (key : String)

/-- What may come next. -/
inductive State where
  /-- The value of the whole text. -/
  | root
  /-- An item or the end of an array, or a comma if `comma` is true. -/
  | item (comma : Bool) (read : List Json) (outer : List Frame)
  /-- A key or the end of an object, or a comma if `comma` is true. -/
  | key (comma : Bool) (read : List (String × Json)) (outer : List Frame)
  /-- The colon after a key. -/
  | colon (key : String) (read : List (String × Json)) (outer : List Frame)
  /-- The value of a member. -/
  | value (key : String) (read : List (String × Json)) (outer : List Frame)
  /-- Nothing. -/
  | finished (value : Json)

/-- What may come after a value. -/
def deliver (v : Json) : List Frame → State
  | [] => .finished v
  | .items read :: outer => .item true (v :: read) outer
  | .members read key :: outer => .key true ((key, v) :: read) outer

/-- The integer with the given hexadecimal digits and sign, if it has at most 63 bits. -/
def hexInteger? (negative : Bool) (ds : List Char) : Option Json :=
  let n := ds.foldl (fun n c => n * 16 + (Json.hexValue? c).getD 0) 0
  if n < Nat.pow 2 63 then some (.number (if negative && n ≠ 0 then .negative n else .natural n))
  else none

/-- The decimal number that makes up the whole text. -/
def decimal? (s : List Char) : Option Json :=
  match Json.readNumber s with
  | .ok (n, []) => some (.number n)
  | _ => none

/-- The value of a number without its sign. -/
def unsignedValue? (negative : Bool) (s : List Char) : Option Json :=
  match s with
  | '0' :: 'x' :: ds => hexInteger? negative ds
  | '0' :: 'X' :: ds => hexInteger? negative ds
  | s => decimal? (if negative then '-' :: s else s)

/-- The value of a number; one that is out of range is taken for a string. -/
def numberValue (text : List Char) : Json :=
  let value? :=
    match text with
    | '-' :: s => unsignedValue? true s
    | '+' :: s => unsignedValue? false s
    | s => unsignedValue? false s
  value?.getD (.string (String.ofList text))

/-- A token where a value is due, inside the given frames. -/
def begin (outer : List Frame) : Token → Except Fault State
  | .openBrace => .ok (.key false [] outer)
  | .openBracket => .ok (.item false [] outer)
  | .string s => .ok (deliver (.string s) outer)
  | .number text => .ok (deliver (numberValue text) outer)
  | .bool b => .ok (deliver (.bool b) outer)
  | .null => .ok (deliver .null outer)
  | .closeBrace => .error .unexpectedCloseBrace
  | .closeBracket => .error .unexpectedCloseBracket
  | .comma => .error .unexpectedComma
  | .colon => .error .unexpectedColon
  | .word _ => .error .unexpectedWord

/-- A token where a key is due. -/
def keyOf (read : List (String × Json)) (outer : List Frame) : Token → Except Fault State
  | .closeBrace => .ok (deliver (.object read.reverse) outer)
  | .string s => .ok (.colon s read outer)
  | .word text => .ok (.colon (String.ofList text) read outer)
  | .number text => .ok (.colon (String.ofList text) read outer)
  | _ => .error .unexpectedInObject

/-- Work off one token. -/
def advance : State → Token → Except Fault State
  | .root, t => begin [] t
  | .item true read outer, .comma => .ok (.item false read outer)
  | .item _ read outer, .closeBracket => .ok (deliver (.array read.reverse) outer)
  | .item _ read outer, t => begin (.items read :: outer) t
  | .key true read outer, .comma => .ok (.key false read outer)
  | .key _ read outer, t => keyOf read outer t
  | .colon key read outer, .colon => .ok (.value key read outer)
  | .colon _ _ _, _ => .error .expectedColon
  | .value key read outer, t => begin (.members read key :: outer) t
  | .finished _, _ => .error .moreThanOneValue

/-- The result at the end of the text. -/
def conclude : State → Except Fault (Option Json)
  | .root => .ok none
  | .item _ _ _ => .error .unterminatedArray
  | .key _ _ _ => .error .unterminatedObject
  | .colon _ _ _ => .error .expectedColon
  | .value _ _ _ => .error .expectedMemberValue
  | .finished v => .ok (some v)

/-- Work off all tokens. -/
def advanceAll : State → List (Except Fault Token) → Except Fault State
  | state, [] => .ok state
  | _, .error e :: _ => .error e
  | state, .ok t :: rest => do advanceAll (← advance state t) rest

/-- The value of a text; none if there is only white space and comments. -/
def read (s : List Char) : Except Fault (Option Json) := do
  conclude (← advanceAll .root (tokens s))

end LintBridge.Jsonc
