/-
# JSON values

The values that JSON texts stand for.  The members of an object are kept in a list, in the order in
which they are written.

* `Json`: the values.
* `Json.Number`: natural numbers, negative integers and floating point numbers, which are told apart
  because a reader of one kind refuses the others.
* `Json.equal_iff`: values can be compared.
-/
import LintBridge.Decimal.Shortest

namespace LintBridge

/-- A number as a JSON text gives it. -/
inductive Json.Number where
  /-- A natural number. -/
  | natural (n : Nat)
  /-- The integer `-n`. -/
  | negative (n : Nat)
  /-- A number with a fraction, an exponent or too many digits. -/
  | real (x : Binary64)
deriving DecidableEq, Repr, Inhabited

/-- A JSON value. -/
inductive Json where
  | null
  | bool (value : Bool)
  | number (value : Json.Number)
  | string (value : String)
  | array (items : List Json)
  | object (members : List (String × Json))
deriving Repr, Inhabited

namespace Json

/-- The natural number `n` as a value. -/
def ofNat (n : Nat) : Json := number (.natural n)

/-- The value of a member of an object: the last one of that name. -/
def member? (name : String) (members : List (String × Json)) : Option Json :=
  members.foldl (fun found m => if m.1 = name then some m.2 else found) none

/-! ## Equality -/

mutual

/-- Whether two values are equal. -/
def equal : Json → Json → Bool
  | null, null => true
  | bool b, bool b' => b = b'
  | number n, number n' => n = n'
  | string s, string s' => s = s'
  | array items, array items' => equalItems items items'
  | object members, object members' => equalMembers members members'
  | _, _ => false

/-- Whether two lists of items are equal. -/
def equalItems : List Json → List Json → Bool
  | [], [] => true
  | v :: rest, v' :: rest' => equal v v' && equalItems rest rest'
  | _, _ => false

/-- Whether two lists of members are equal. -/
def equalMembers : List (String × Json) → List (String × Json) → Bool
  | [], [] => true
  | (k, v) :: rest, (k', v') :: rest' => k = k' && equal v v' && equalMembers rest rest'
  | _, _ => false

end

mutual

theorem equal_iff : ∀ {v v' : Json}, equal v v' = true ↔ v = v'
  | array items, v' => by cases v' <;> simp [equal, equalItems_iff]
  | object members, v' => by cases v' <;> simp [equal, equalMembers_iff]
  | null, v' | bool _, v' | number _, v' | string _, v' => by cases v' <;> simp [equal]

theorem equalItems_iff : ∀ {l l' : List Json}, equalItems l l' = true ↔ l = l'
  | [], l' => by cases l' <;> simp [equalItems]
  | v :: rest, l' => by cases l' <;> simp [equalItems, equal_iff, equalItems_iff]

theorem equalMembers_iff : ∀ {l l' : List (String × Json)}, equalMembers l l' = true ↔ l = l'
  | [], l' => by cases l' <;> simp [equalMembers]
  | (k, v) :: rest, l' => by
    cases l' <;> simp [equalMembers, equal_iff, equalMembers_iff, Prod.ext_iff]

end

instance : DecidableEq Json := fun _ _ => decidable_of_iff _ equal_iff

end Json

/-- Floating point numbers are written without an exponent while their first digit is at most 16
places from the point on its left and 5 on its right, else with an exponent that has a sign and no
zeros in front. -/
def Json.numeralFormat : NumeralFormat := ⟨-5, 15, 1⟩

/-- How a number is written. -/
def Json.Number.text : Json.Number → List Char
  | natural n => Nat.toDigits 10 n
  | negative n => '-' :: Nat.toDigits 10 n
  | real x => x.render Json.numeralFormat

end LintBridge
