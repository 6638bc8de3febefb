/-
# Writing JSON

Two layouts of one value: the compact one has no space at all, the pretty one has a line for every
item and member, indented by two spaces for each level.  Inside a string only the quote, the
backslash and the control characters below the space are escaped.

* `Json.compact`: the compact text.
* `Json.pretty`: the indented text, without a line feed at its end.
-/
import LintBridge.Json.Value

namespace LintBridge

namespace Json

/-- The hexadecimal digit for a number below 16, in small letters. -/
def hexDigit (n : Nat) : Char := Nat.digitChar n

/-- A character as it stands in a JSON string. -/
def escapeChar (c : Char) : List Char :=
  match c with
  | '"' => ['\\', '"']
  | '\\' => ['\\', '\\']
  | '\n' => ['\\', 'n']
  | '\r' => ['\\', 'r']
  | '\t' => ['\\', 't']
  | c =>
    if c.toNat = 8 then ['\\', 'b']
    else if c.toNat = 12 then ['\\', 'f']
    else if c.toNat < 32 then
      ['\\', 'u', '0', '0', hexDigit (c.toNat / 16), hexDigit (c.toNat % 16)]
    else [c]

/-- A JSON string. -/
def stringText (s : String) : List Char :=
  '"' :: s.toList.flatMap escapeChar ++ ['"']

mutual

/-- The compact text of a value. -/
def compact : Json → List Char
  | null => ['n', 'u', 'l', 'l']
  | bool true => ['t', 'r', 'u', 'e']
  | bool false => ['f', 'a', 'l', 's', 'e']
  | number n => n.text
  | string s => stringText s
  | array [] => ['[', ']']
  | array (v :: rest) => '[' :: (compact v ++ compactItems rest)
  | object [] => ['{', '}']
  | object ((k, v) :: rest) => '{' :: (stringText k ++ ':' :: (compact v ++ compactMembers rest))

/-- The items of an array after the first one, and the closing bracket. -/
def compactItems : List Json → List Char
  | [] => [']']
  | v :: rest => ',' :: (compact v ++ compactItems rest)

/-- The members of an object after the first one, and the closing brace. -/
def compactMembers : List (String × Json) → List Char
  | [] => ['}']
  | (k, v) :: rest => ',' :: (stringText k ++ ':' :: (compact v ++ compactMembers rest))

end

/-- A line feed and the indentation of a level. -/
def newline (level : Nat) : List Char := '\n' :: List.replicate (2 * level) ' '

mutual

/-- The pretty text of a value on a line of the given level. -/
def prettyAt (level : Nat) : Json → List Char
  | null => ['n', 'u', 'l', 'l']
  | bool true => ['t', 'r', 'u', 'e']
  | bool false => ['f', 'a', 'l', 's', 'e']
  | number n => n.text
  | string s => stringText s
  | array [] => ['[', ']']
  | array (v :: rest) =>
    '[' :: (newline (level + 1) ++ (prettyAt (level + 1) v ++ prettyItems level rest))
  | object [] => ['{', '}']
  | object ((k, v) :: rest) =>
    '{' :: (newline (level + 1) ++ (stringText k ++
      ':' :: ' ' :: (prettyAt (level + 1) v ++ prettyMembers level rest)))

/-- The items of an array after the first one, and the closing bracket. -/
def prettyItems (level : Nat) : List Json → List Char
  | [] => newline level ++ [']']
  | v :: rest => ',' :: (newline (level + 1) ++ (prettyAt (level + 1) v ++ prettyItems level rest))

/-- The members of an object after the first one, and the closing brace. -/
def prettyMembers (level : Nat) : List (String × Json) → List Char
  | [] => newline level ++ ['}']
  | (k, v) :: rest =>
    ',' :: (newline (level + 1) ++ (stringText k ++
      ':' :: ' ' :: (prettyAt (level + 1) v ++ prettyMembers level rest)))

end

/-- The pretty text of a value. -/
def pretty (v : Json) : List Char := prettyAt 0 v

/-- The compact text of a value, as a string. -/
def compactText (v : Json) : String := String.ofList v.compact

/-- The pretty text of a value, as a string. -/
def prettyText (v : Json) : String := String.ofList v.pretty

end Json

end LintBridge
