/-
# Objects in the order of their names

An object that is looked at as a whole has its members in the order of their names, and of two
members of one name only the last one counts.

* `Json.sorted`: a value all of whose objects are in this order.
-/
import LintBridge.Json.Value

namespace LintBridge.Json

/-- Enter a member into a list that is in order; it replaces the one of its name. -/
def enterMember (name : String) (v : Json) : List (String × Json) → List (String × Json)
  | [] => [(name, v)]
  | (k, w) :: rest =>
    if name = k then (name, v) :: rest
    else if name < k then (name, v) :: (k, w) :: rest
    else (k, w) :: enterMember name v rest

mutual

/-- The value with the members of all its objects in order. -/
def sorted : Json → Json
  | array items => array (sortedItems items)
  | object members => object (sortedMembers [] members)
  | v => v

/-- The items of an array in order of appearance, each sorted. -/
def sortedItems : List Json → List Json
  | [] => []
  | v :: rest => sorted v :: sortedItems rest

/-- The members of an object, sorted and entered one after another. -/
def sortedMembers (entered : List (String × Json)) : List (String × Json) → List (String × Json)
  | [] => entered
  | (k, v) :: rest => sortedMembers (enterMember k (sorted v) entered) rest

end

end LintBridge.Json
