/-
# Events

What the editor tells: a buffer was saved or entered, or a command was given.

* `Event.toJson`, `Event.read`: the JSON form, an object whose member `event` names the kind.

The kind may stand anywhere among the members, so the others are kept until it is known what they
are for.
-/
import LintBridge.Json.Tree
import LintBridge.Path.Basic

namespace LintBridge

/-- An event of the editor. -/
inductive Event where
  /-- A buffer was saved. -/
  | bufferSaved (filePath : Option Path)
  /-- A buffer was entered. -/
  | bufferEnter (filePath : Option Path)
  /-- A command was given. -/
  | command (name : String)
deriving DecidableEq, Repr, Inhabited

namespace Event

/-- The kinds of events. -/
inductive Kind where
  | bufferSaved
  | bufferEnter
  | command
deriving DecidableEq, Repr

/-- The kinds with their names. -/
def Kind.names : List (String × Kind) :=
  [("bufferSaved", .bufferSaved), ("bufferEnter", .bufferEnter), ("command", .command)]

/-- The JSON form of a path that may be missing. -/
def pathToJson (p : Option Path) : Json :=
  match p with
  | none => .null
  | some p => .string p.text

/-- The JSON form: the kind comes first, and a missing path is written as `null`. -/
def toJson : Event → Json
  | bufferSaved p => .object [("event", .string "bufferSaved"), ("filePath", pathToJson p)]
  | bufferEnter p => .object [("event", .string "bufferEnter"), ("filePath", pathToJson p)]
  | command name => .object [("event", .string "command"), ("name", .string name)]

/-! ## What the members are for -/

/-- The path a value gives. -/
def asPath (v : Json) : Except Json.Fault (Option Path) := do
  let p ← v.asOption (Json.asStringAs "path string")
  return p.map Path.mk

/-- The value of the only member of the given name, as `item` takes it. -/
def onlyMember {α : Type} (name : String) (item : Json → Except Json.Fault α) :
    Option α → List (String × Json) → Except Json.Fault (Option α)
  | given, [] => .ok given
  | given, (k, v) :: rest =>
    if k = name then
      match given with
      | some _ => .error (.duplicateMember name)
      | none => do onlyMember name item (some (← item v)) rest
    else onlyMember name item given rest

/-- The event of a kind with the given members. -/
def ofMembers (kind : Kind) (members : List (String × Json)) : Except Json.Fault Event :=
  match kind with
  | .bufferSaved => do
    return bufferSaved ((← onlyMember "filePath" asPath none members).getD none)
  | .bufferEnter => do
    return bufferEnter ((← onlyMember "filePath" asPath none members).getD none)
  | .command => do
    match ← onlyMember "name" Json.asString none members with
    | some name => return command name
    | none => .error (.missingMember "name")

/-- What the only item of a list is for. -/
def onlyItem {α : Type} (item : Json → Except Json.Fault α) (missing : Except Json.Fault α) :
    List Json → Except Json.Fault α
  | [] => missing
  | [v] => item v
  | v :: rest => do
    let _ ← item v
    .error (.wrongLength (rest.length + 1) "1 element in sequence")

/-- The event of a kind with the given items after the kind. -/
def ofItems (kind : Kind) (items : List Json) : Except Json.Fault Event :=
  match kind with
  | .bufferSaved => do return bufferSaved (← onlyItem asPath (.ok none) items)
  | .bufferEnter => do return bufferEnter (← onlyItem asPath (.ok none) items)
  | .command => do
    let missing := .error (.wrongLength 0 "struct variant EditorEvent::Command with 1 element")
    return command (← onlyItem Json.asString missing items)

/-! ## Reading -/

/-- The kind, as a string. -/
def readKind : Json.Reader Kind := fun s => do
  let (name, rest) ← Json.readStringAs "variant identifier" s
  let kind ← Json.named Kind.names name
  .ok (kind, rest)

/-- A value inside an event, which itself is one level of nesting. -/
def readInner : Json.Reader Json := Json.readTree (Json.maxDepth - 1)

/-- What has been read of an event. -/
structure Draft where
  /-- The kind, if it has been met. -/
  kind : Option Kind
  /-- The other members, in reverse. -/
  members : List (String × Json)

/-- Read the value of the member named `k`. -/
def readMember (k : String) (draft : Draft) : Json.Reader Draft := fun s =>
  if k = "event" then
    if draft.kind.isSome then .error (.duplicateMember "event")
    else do
      let (kind, rest) ← readKind (← Json.readColon s)
      .ok ({ draft with kind := some kind }, rest)
  else do
    let (v, rest) ← readInner (← Json.readColon s)
    .ok ({ draft with members := (k, v) :: draft.members }, rest)

/-- An event as an object, after the opening brace. -/
def ofObject : Json.Reader Event := fun s => do
  let (draft, rest) ← Json.objectBody readMember ⟨none, []⟩ s
  match draft.kind with
  | none => .error (.missingMember "event")
  | some kind => do
    let event ← ofMembers kind draft.members.reverse
    .ok (event, rest)

/-- An event as an array, after the opening bracket. -/
def ofArray : Json.Reader Event := fun s => do
  match ← Json.nextItem true s with
  | (false, _) => .error (.missingMember "event")
  | (true, rest) =>
    let (kind, rest) ← readKind rest
    let (items, rest) ← Json.moreItems readInner rest
    let event ← ofItems kind items
    .ok (event, rest)

/-- Read an event. -/
def read : Json.Reader Event := fun s =>
  match Json.skipSpaces s with
  | '{' :: rest => ofObject rest
  | '[' :: rest => ofArray rest
  | s => .error (Json.wrongValue "internally tagged enum EditorEvent" s)

end Event

end LintBridge
