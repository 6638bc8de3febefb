/-
# Reading values of a known kind

Readers that know what they want: a string, a number of a given width, a list, an optional value, a
record.  A value of another kind is judged by its start: a literal, a number or a string is read to
its end before it is refused, an array or object is not read at all.

* `Json.readList`, `Json.readOption`, `Json.readName`: lists, optional values, names of a fixed set.
* `Json.Record`, `Json.readRecord`: a record, written as an object in any order of its members, or
  as an array in the order of declaration.
* `Json.readAll`: a whole text.
-/
import LintBridge.Json.Skip

namespace LintBridge.Json

/-- The problem with a text at whose start another kind of value was wanted. -/
def wrongValue (want : String) (s : List Char) : Fault :=
  let judge {α : Type} (r : Except Fault α) (found : α → Found) : Fault :=
    match r with
    | .error e => e
    | .ok a => .wrongType (found a) want
  match skipSpaces s with
  | [] => .endInValue
  | 'n' :: rest => judge (readLetters ['u', 'l', 'l'] rest) fun _ => .null
  | 't' :: rest => judge (readLetters ['r', 'u', 'e'] rest) fun _ => .bool true
  | 'f' :: rest => judge (readLetters ['a', 'l', 's', 'e'] rest) fun _ => .bool false
  | '"' :: rest => judge (stringBody rest) fun r => .string r.1
  | '[' :: _ => .wrongType .array want
  | '{' :: _ => .wrongType .object want
  | c :: rest =>
    if startsNumber c then judge (readNumber (c :: rest)) fun r => .number r.1
    else .expectedValue

/-- A string, named as `want` in a refusal. -/
def readStringAs (want : String) : Reader String := fun s =>
  match skipSpaces s with
  | '"' :: rest => stringBody rest
  | s => .error (wrongValue want s)

/-- A string. -/
def readString : Reader String := readStringAs "a string"

/-- `true` or `false`. -/
def readBool : Reader Bool := fun s =>
  match skipSpaces s with
  | 't' :: rest => do return (true, ← readLetters ['r', 'u', 'e'] rest)
  | 'f' :: rest => do return (false, ← readLetters ['a', 'l', 's', 'e'] rest)
  | s => .error (wrongValue "a boolean" s)

/-- A natural number below a bound, named as `want` in a refusal. -/
def readBelow (bound : Nat) (want : String) : Reader Nat := fun s =>
  match skipSpaces s with
  | c :: rest =>
    if startsNumber c then do
      match ← readNumber (c :: rest) with
      | (.natural n, rest) =>
        if n < bound then .ok (n, rest) else .error (.outOfRange (.natural n) want)
      | (.negative n, _) => .error (.outOfRange (.negative n) want)
      | (.real x, _) => .error (.wrongType (.number (.real x)) want)
    else .error (wrongValue want (c :: rest))
  | [] => .error .endInValue

/-- A number of 8 bits. -/
def readUInt8 : Reader UInt8 := fun s => do
  let (n, rest) ← readBelow (Nat.pow 2 8) "u8" s
  .ok (UInt8.ofNat n, rest)

/-- A number of 32 bits. -/
def readUInt32 : Reader UInt32 := fun s => do
  let (n, rest) ← readBelow (Nat.pow 2 32) "u32" s
  .ok (UInt32.ofNat n, rest)

/-- `null`, or a value. -/
def readOption {α : Type} (item : Reader α) : Reader (Option α) := fun s =>
  match skipSpaces s with
  | 'n' :: rest => do return (none, ← readLetters ['u', 'l', 'l'] rest)
  | s => do
    let (a, rest) ← item s
    .ok (some a, rest)

/-! ## Arrays -/

/-- Whether another item of an array follows; its closing bracket is passed. -/
def nextItem (first : Bool) (s : List Char) : Except Fault (Bool × List Char) :=
  match skipSpaces s with
  | [] => .error .endInArray
  | ']' :: rest => .ok (false, rest)
  | c :: rest =>
    if first then .ok (true, c :: rest)
    else if c = ',' then
      match skipSpaces rest with
      | [] => .error .endInValue
      | ']' :: _ => .error .trailingComma
      | rest => .ok (true, rest)
    else .error .expectedItemEnd

/-- One more item of a list, or its end; the items read so far are kept in reverse, and `first` says
whether an item without a comma may follow. -/
def listTurn {α : Type} (item : Reader α) (state : Bool × List α) (s : List Char) :
    Except Fault (Turn (Bool × List α) (List α)) := do
  match ← nextItem state.1 s with
  | (false, rest) => .ok (.done state.2.reverse rest)
  | (true, rest) =>
    let (a, rest) ← item rest
    .ok (.again (false, a :: state.2) rest)

/-- A list after its opening bracket. -/
def listBody {α : Type} (item : Reader α) : Reader (List α) := repeatedly (listTurn item) (true, [])

/-- The items of a list after its first one. -/
def moreItems {α : Type} (item : Reader α) : Reader (List α) :=
  repeatedly (listTurn item) (false, [])

/-- A list. -/
def readList {α : Type} (item : Reader α) : Reader (List α) := fun s =>
  match skipSpaces s with
  | '[' :: rest => listBody item rest
  | s => .error (wrongValue "a sequence" s)

/-- The closing bracket of an array all of whose items have been read. -/
def endArray (s : List Char) : Except Fault (List Char) :=
  match skipSpaces s with
  | [] => .error .endInArray
  | ']' :: rest => .ok rest
  | ',' :: rest =>
    match skipSpaces rest with
    | ']' :: _ => .error .trailingComma
    | _ => .error .trailingText
  | _ => .error .trailingText

/-! ## Objects -/

/-- The key of the next member of an object; its closing brace is passed. -/
def nextKey (first : Bool) (s : List Char) : Except Fault (Option String × List Char) :=
  let key (rest : List Char) : Except Fault (Option String × List Char) := do
    let (k, rest) ← stringBody rest
    .ok (some k, rest)
  match skipSpaces s with
  | [] => .error .endInObject
  | '}' :: rest => .ok (none, rest)
  | c :: rest =>
    if first then if c = '"' then key rest else .error .keyNotString
    else if c = ',' then
      match skipSpaces rest with
      | [] => .error .endInValue
      | '"' :: rest => key rest
      | '}' :: _ => .error .trailingComma
      | _ => .error .keyNotString
    else .error .expectedMemberEnd

/-- The colon after a key. -/
def readColon (s : List Char) : Except Fault (List Char) :=
  match skipSpaces s with
  | [] => .error .endInObject
  | ':' :: rest => .ok rest
  | _ => .error .expectedColon

/-- One more member of an object, or its end. -/
def memberTurn {σ : Type} (member : String → σ → Reader σ) (state : Bool × σ) (s : List Char) :
    Except Fault (Turn (Bool × σ) σ) := do
  match ← nextKey state.1 s with
  | (none, rest) => .ok (.done state.2 rest)
  | (some k, rest) =>
    let (draft, rest) ← member k state.2 rest
    .ok (.again (false, draft) rest)

/-- The members of an object after its opening brace.  `member` reads on after a key. -/
def objectBody {σ : Type} (member : String → σ → Reader σ) (start : σ) : Reader σ :=
  repeatedly (memberTurn member) (true, start)

/-! ## Records -/

/-- A member of a record whose reading is under way. -/
structure Field (δ : Type) where
  /-- The name of the member. -/
  name : String
  /-- Whether the member has been read. -/
  filled : δ → Bool
  /-- Read the member into the draft. -/
  read : δ → Reader δ

/-- A member that is kept in the draft as soon as it has been read. -/
def Field.of {δ β : Type} (name : String) (get : δ → Option β) (set : δ → β → δ)
    (item : Reader β) : Field δ where
  name := name
  filled draft := (get draft).isSome
  read draft s := do
    let (x, rest) ← item s
    .ok (set draft x, rest)

/-- How a record is read: a draft is filled member by member, then completed. -/
structure Record (δ α : Type) where
  /-- What the record is called in a refusal. -/
  what : String
  /-- Its members, in the order of declaration. -/
  fields : List (Field δ)
  /-- The draft before the first member. -/
  blank : δ
  /-- The record of a draft, or the name of the first member that is missing. -/
  complete : δ → Except String α

variable {δ α : Type}

/-- Read the value of the member named `k`; a member of another name is passed over. -/
def Record.member (r : Record δ α) (k : String) (draft : δ) : Reader δ := fun s =>
  match r.fields.find? fun f => f.name = k with
  | some f =>
    if f.filled draft then .error (.duplicateMember k)
    else do
      let s ← readColon s
      f.read draft s
  | none => do
    let s ← readColon s
    let (_, rest) ← skipValue s
    .ok (draft, rest)

/-- A record as an object, after the opening brace. -/
def Record.ofObject (r : Record δ α) : Reader α := fun s => do
  let (draft, rest) ← objectBody r.member r.blank s
  match r.complete draft with
  | .ok a => .ok (a, rest)
  | .error name => .error (.missingMember name)

/-- The number of things, in words. -/
def counted (n : Nat) (thing : String) : String :=
  String.ofList (Nat.toDigits 10 n) ++ " " ++ thing ++ if n = 1 then "" else "s"

/-- The items of an array as the given members, until one of the two ends. -/
def readItems (first : Bool) (draft : δ) : List (Field δ) → Reader (Bool × δ)
  | [], s => .ok ((false, draft), s)
  | f :: fs, s => do
    match ← nextItem first s with
    | (false, rest) => .ok ((true, draft), rest)
    | (true, rest) =>
      let (draft, rest) ← f.read draft rest
      readItems false draft fs rest

/-- A record as an array, after the opening bracket. -/
def Record.ofArray (r : Record δ α) : Reader α := fun s => do
  let ((closed, draft), rest) ← readItems true r.blank r.fields s
  match r.complete draft with
  | .error name =>
    let length := r.fields.findIdx fun f => f.name = name
    .error (.wrongLength length (r.what ++ " with " ++ counted r.fields.length "element"))
  | .ok a =>
    if closed then .ok (a, rest)
    else do
      let rest ← endArray rest
      .ok (a, rest)

/-- A record. -/
def readRecord (r : Record δ α) : Reader α := fun s =>
  match skipSpaces s with
  | '{' :: rest => r.ofObject rest
  | '[' :: rest => r.ofArray rest
  | s => .error (wrongValue r.what s)

/-! ## Names -/

/-- The value a name stands for. -/
def named (known : List (String × α)) (name : String) : Except Fault α :=
  match known.find? fun k => k.1 = name with
  | some k => .ok k.2
  | none => .error (.unknownName name (known.map Prod.fst))

/-- One of the known names: a string, or an object whose only member has this name and the value
`null`. -/
def readName (known : List (String × α)) : Reader α := fun s =>
  match skipSpaces s with
  | [] => .error .endInValue
  | '"' :: rest => do
    let (name, rest) ← stringBody rest
    let a ← named known name
    .ok (a, rest)
  | '{' :: rest => do
    let (some name, rest) ← nextKey true rest | .error .expectedValue
    let a ← named known name
    let rest ← readColon rest
    match skipSpaces rest with
    | 'n' :: rest =>
      let rest ← readLetters ['u', 'l', 'l'] rest
      match skipSpaces rest with
      | '}' :: rest => .ok (a, rest)
      | [] => .error .endInObject
      | _ => .error .expectedValue
    | rest => .error (wrongValue "unit" rest)
  | _ => .error .expectedValue

/-! ## Whole texts -/

/-- A value that makes up the whole text, but for white space. -/
def readAll (item : Reader α) (s : List Char) : Except Fault α := do
  let (a, rest) ← item s
  if (skipSpaces rest).isEmpty then .ok a else .error .trailingText

end LintBridge.Json
