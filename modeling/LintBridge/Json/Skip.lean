/-
# Passing over a JSON value

A value that nobody asked for is only checked for its syntax: it may be nested to any depth, its
numbers may be out of range, and its strings may hold halves of surrogate pairs.

* `Json.skipValue`: pass over one value.
-/
import LintBridge.Json.Scan

namespace LintBridge.Json

/-- Pass over the escape after a backslash. -/
def skipEscape : List Char → Except Fault (List Char)
  | [] => .error .endInString
  | 'u' :: rest =>
    match readHex4 rest with
    | .error e => .error e
    | .ok (_, rest) => .ok rest
  | c :: rest => if (simpleEscape? c).isSome then .ok rest else .error .badEscape

/-- Pass over one character of a string or its end. -/
def skipStringTurn (_ : Unit) : List Char → Except Fault (Turn Unit Unit)
  | [] => .error .endInString
  | '"' :: rest => .ok (.done () rest)
  | '\\' :: rest =>
    match skipEscape rest with
    | .error e => .error e
    | .ok rest => .ok (.again () rest)
  | c :: rest => if c.toNat < 32 then .error .controlCharacter else .ok (.again () rest)

/-- Pass over a string after its opening quote. -/
def skipString : Reader Unit := repeatedly skipStringTurn ()

/-- Pass over a number.  One that breaks off is wrong even at the end of the text. -/
def skipNumber (s : List Char) : Except Fault (List Char) :=
  match readNumeral s with
  | .ok (_, rest) => .ok rest
  | .error _ => .error .badNumber

/-- An array or an object that is still open. -/
inductive Frame where
  | array
  | object
deriving DecidableEq, Repr

/-- Where the passing over a value stands. -/
structure Skipping where
  /-- Whether a value was just passed, in contrast to an opening bracket or a value being due. -/
  passed : Option Bool
  /-- The open arrays and objects, the innermost first. -/
  frames : List Frame

/-- What comes after a value inside the given frames. -/
def afterValue (frames : List Frame) (rest : List Char) : Turn Skipping Unit :=
  match frames with
  | [] => .done () rest
  | frames => .again ⟨some true, frames⟩ rest

/-- Pass over a value that is not nested, or into one that is. -/
def skipStart (frames : List Frame) (s : List Char) : Except Fault (Turn Skipping Unit) :=
  match skipSpaces s with
  | [] => .error .endInValue
  | 'n' :: rest => do return afterValue frames (← readLetters ['u', 'l', 'l'] rest)
  | 't' :: rest => do return afterValue frames (← readLetters ['r', 'u', 'e'] rest)
  | 'f' :: rest => do return afterValue frames (← readLetters ['a', 'l', 's', 'e'] rest)
  | '"' :: rest => do return afterValue frames (← skipString rest).2
  | '[' :: rest => .ok (.again ⟨some false, .array :: frames⟩ rest)
  | '{' :: rest => .ok (.again ⟨some false, .object :: frames⟩ rest)
  | c :: rest =>
    if startsNumber c then do return afterValue frames (← skipNumber (c :: rest))
    else .error .expectedValue

/-- Pass over a key and its colon. -/
def skipKey (frames : List Frame) (s : List Char) : Except Fault (Turn Skipping Unit) :=
  match skipSpaces s with
  | [] => .error .endInObject
  | '"' :: rest => do
    let (_, rest) ← skipString rest
    match skipSpaces rest with
    | [] => .error .endInObject
    | ':' :: rest => .ok (.again ⟨none, frames⟩ rest)
    | _ => .error .expectedColon
  | _ => .error .keyNotString

/-- What comes after an opening bracket (`passed` is false) or after a value (`passed` is true). -/
def skipNext (passed : Bool) (frame : Frame) (frames : List Frame) (s : List Char) :
    Except Fault (Turn Skipping Unit) :=
  match frame, skipSpaces s with
  | .array, [] => .error .endInArray
  | .object, [] => .error .endInObject
  | .array, ']' :: rest => .ok (afterValue frames rest)
  | .object, '}' :: rest => .ok (afterValue frames rest)
  | .array, c :: rest =>
    if passed then
      if c = ',' then .ok (.again ⟨none, frame :: frames⟩ rest) else .error .expectedItemEnd
    else skipStart (frame :: frames) (c :: rest)
  | .object, c :: rest =>
    if passed then
      if c = ',' then skipKey (frame :: frames) rest else .error .expectedMemberEnd
    else skipKey (frame :: frames) (c :: rest)

/-- One step in passing over a value. -/
def skipTurn (state : Skipping) (s : List Char) : Except Fault (Turn Skipping Unit) :=
  match state with
  | ⟨some passed, frame :: frames⟩ => skipNext passed frame frames s
  | ⟨_, frames⟩ => skipStart frames s

/-- Pass over one value. -/
def skipValue : Reader Unit := repeatedly skipTurn ⟨none, []⟩

end LintBridge.Json
