/-
# Reading values of any kind

A value that is read before it is known what it is for: all of it is kept, so its numbers have to be
in range and its nesting is limited.

* `Json.readTree`: a value, nested at most to the given depth.
* `Json.asString`, `Json.asOption`, …: what a value that has been read is for.
-/
import LintBridge.Json.Typed

namespace LintBridge.Json

/-- A value whose arrays and objects are nested less than `depth` levels deep. -/
def readTree : Nat → Reader Json
  | 0, _ => .error .tooDeep
  | depth + 1, s =>
    match skipSpaces s with
    | [] => .error .endInValue
    | 'n' :: rest => do return (null, ← readLetters ['u', 'l', 'l'] rest)
    | 't' :: rest => do return (bool true, ← readLetters ['r', 'u', 'e'] rest)
    | 'f' :: rest => do return (bool false, ← readLetters ['a', 'l', 's', 'e'] rest)
    | '"' :: rest => do
      let (x, rest) ← stringBody rest
      .ok (string x, rest)
    | '[' :: rest =>
      if depth = 0 then .error .tooDeep
      else do
        let (items, rest) ← listBody (readTree depth) rest
        .ok (array items, rest)
    | '{' :: rest =>
      if depth = 0 then .error .tooDeep
      else do
        let member (k : String) (read : List (String × Json)) : Reader (List (String × Json)) :=
          fun s => do
            let s ← readColon s
            let (v, rest) ← readTree depth s
            .ok ((k, v) :: read, rest)
        let (members, rest) ← objectBody member [] rest
        .ok (object members.reverse, rest)
    | c :: rest =>
      if startsNumber c then do
        let (n, rest) ← readNumber (c :: rest)
        .ok (number n, rest)
      else .error .expectedValue

/-- How deep a document may be nested. -/
def maxDepth : Nat := 128

/-! ## Values that have been read -/

/-- How a value is named when another kind was wanted. -/
def found : Json → Found
  | null => .null
  | bool b => .bool b
  | number n => .number n
  | string s => .string s
  | array _ => .array
  | object _ => .object

/-- The string a value is, named as `want` in a refusal. -/
def asStringAs (want : String) : Json → Except Fault String
  | string s => .ok s
  | v => .error (.wrongType v.found want)

/-- The string a value is. -/
def asString : Json → Except Fault String := asStringAs "a string"

/-- The truth value a value is. -/
def asBool : Json → Except Fault Bool
  | bool b => .ok b
  | v => .error (.wrongType v.found "a boolean")

/-- What a value is if it is not `null`. -/
def asOption {α : Type} (item : Json → Except Fault α) : Json → Except Fault (Option α)
  | null => .ok none
  | v => (item v).map some

/-- The list a value is. -/
def asList {α : Type} (item : Json → Except Fault α) : Json → Except Fault (List α)
  | array items => items.mapM item
  | v => .error (.wrongType v.found "a sequence")

/-- The known name a value is. -/
def asName {α : Type} (known : List (String × α)) (v : Json) : Except Fault α := do
  named known (← v.asString)

end LintBridge.Json
