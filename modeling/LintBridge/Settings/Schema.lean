/-
# The schema of settings

What a settings file may hold, and the first thing that is wrong with one.

* `Schema`: what is asked of a value.
* `Schema.check`: the first complaint about a value, if there is one.
* `Settings.check`: the first complaint about a settings file.
-/
import LintBridge.Json.Sorted
import LintBridge.Json.Writer
import LintBridge.Settings.Basic

namespace LintBridge

/-- What is asked of a value. -/
inductive Schema where
  /-- Any string. -/
  | text
  /-- A string of at least one character. -/
  | nonemptyText
  /-- A string that starts with a dot. -/
  | dottedText
  /-- A string or `null`. -/
  | optionalText
  /-- `true` or `false`. -/
  | flag
  /-- One of two names. -/
  | oneOf (a b : String)
  /-- A list of at least `least` items, of each of which the same is asked. -/
  | list (least : Nat) (item : Schema)
deriving Repr

/-- What is wrong with a value. -/
inductive Complaint where
  /-- The value is of none of the types. -/
  | wrongType (value : Json) (types : List String)
  /-- The string is empty. -/
  | empty
  /-- The string does not start with a dot. -/
  | undotted (value : String)
  /-- The value is neither of the two names. -/
  | unlisted (value : Json) (a b : String)
  /-- The list has fewer items than the least number. -/
  | tooFew (value : Json) (least : Nat)
  /-- The object has a member that is not known. -/
  | unexpected (name : String)
deriving Repr

namespace Complaint

/-- A name between double quotes. -/
def quoted (name : String) : String := "\"" ++ name ++ "\""

/-- The wording of a complaint; values are shown as compact JSON. -/
def message : Complaint → String
  | wrongType v [t] => v.compactText ++ " is not of type " ++ quoted t
  | wrongType v ts => v.compactText ++ " is not of types " ++ ", ".intercalate (ts.map quoted)
  | empty => "\"\" is shorter than 1 character"
  | undotted s => (Json.string s).compactText ++ " does not match \"^\\.\""
  | unlisted v a b => v.compactText ++ " is not one of " ++ quoted a ++ " or " ++ quoted b
  | tooFew v least => v.compactText ++ " has less than " ++ Json.counted least "item"
  | unexpected name =>
    "Additional properties are not allowed ('" ++ name ++ "' was unexpected)"

end Complaint

namespace Schema

/-- The first complaint in a list of values. -/
def firstComplaint (check : Json → Option Complaint) : List Json → Option Complaint
  | [] => none
  | v :: rest => (check v).or (firstComplaint check rest)

/-- The first complaint about a value: its type comes first, then its length, then its items. -/
def check : Schema → Json → Option Complaint
  | text, .string _ => none
  | nonemptyText, .string s => if s.isEmpty then some .empty else none
  | dottedText, .string s => if s.toList.head? = some '.' then none else some (.undotted s)
  | optionalText, .string _ => none
  | optionalText, .null => none
  | flag, .bool _ => none
  | oneOf a b, .string s =>
    if s = a ∨ s = b then none else some (.unlisted (.string s) a b)
  | list least item, .array vs =>
    if vs.length < least then some (.tooFew (.array vs) least)
    else firstComplaint item.check vs
  | oneOf a b, v => some (.unlisted v a b)
  | optionalText, v => some (.wrongType v ["null", "string"])
  | flag, v => some (.wrongType v ["boolean"])
  | list _ _, v => some (.wrongType v ["array"])
  | _, v => some (.wrongType v ["string"])

end Schema

namespace Settings

/-- The members of a settings file, and what is asked of each. -/
def members : List (String × Schema) := [
  ("$schema", .text),
  ("sourceId", .nonemptyText),
  ("extensions", .list 0 .dottedText),
  ("configFiles", .list 1 .nonemptyText),
  ("tool", .nonemptyText),
  ("colorHint", .optionalText),
  ("severity", .oneOf "graded" "warning-only"),
  ("emptyRecords", .oneOf "retain" "omit"),
  ("ruleInMessage", .flag)]

/-- The first complaint about a member. -/
def checkMember (m : String × Json) : Option Complaint :=
  match members.find? fun known => known.1 = m.1 with
  | some known => known.2.check m.2
  | none => some (.unexpected m.1)

/-- The first complaint about a settings file, whose members are looked at in the order given. -/
def check : Json → Option Complaint
  | .object ms => ms.findSome? checkMember
  | v => some (.wrongType v ["object"])

end Settings

end LintBridge
