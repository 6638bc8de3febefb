/-
# Conditions

The conditions that a script tests: of texts, numbers and files, joined by `-a`, `-o`, `!` and
parentheses.

* `Condition.evaluate`: whether arguments that spell a condition are true, or why they spell none.
-/
import LintBridge.Shell.Machine

namespace LintBridge.Shell

/-- What is wrong with a condition. -/
inductive ConditionFault where
  /-- Something stands where it cannot. -/
  | unexpected (word : Octets)
  | missingArgument (operator : Octets)
  | unclosed
  | illegalNumber (text : Octets)
deriving DecidableEq, Repr

/-- The wording of a fault in a condition. -/
def ConditionFault.message : ConditionFault → String
  | unexpected word => Octets.decode word ++ ": unexpected operator"
  | missingArgument operator => Octets.decode operator ++ ": argument expected"
  | unclosed => "closing paren expected"
  | illegalNumber text => "Illegal number: " ++ Octets.decode text

namespace Condition

/-! ## Tests -/

/-- Whether a path leads to a link. -/
def isLink (d : Disk) (p : Path) : Bool :=
  match d.resolve true p with
  | .ok (.found l) => match d.node? l with | some (.link _) => true | _ => false
  | _ => false

/-- Whether a path is that of the file which swallows everything. -/
def isSink (a : Octets) : Bool := a = Octets.ofString "/dev/null"

/-- The tests of one argument. -/
def unaryNames : List Char :=
  ['r', 'w', 'x', 'e', 'f', 'd', 'c', 'b', 'p', 'u', 'g', 'k', 's', 't', 'z', 'n', 'h', 'L', 'O',
    'G', 'S']

/-- Whether a word is a test of one argument. -/
def isUnary : Octets → Bool
  | ['-', c] => unaryNames.contains c
  | _ => false

/-- A test of one argument. -/
def unary (s : State) (op : Octets) (a : Octets) : Bool :=
  let p := State.path a
  let node := (s.view.stat p).toOption.map Prod.snd
  let sink := isSink a
  match op with
  | ['-', 'n'] => !a.isEmpty
  | ['-', 'z'] => a.isEmpty
  | ['-', 'f'] => match node with | some (.file _ _) => true | _ => false
  | ['-', 'd'] => match node with | some .directory => true | _ => false
  | ['-', 's'] =>
    match node with
    | some (.file c _) => !c.isEmpty
    | node => node.isSome
  | ['-', 'x'] =>
    match node with
    | some (.file _ executable) => executable
    | node => node.isSome
  | ['-', 'L'] => isLink s.view p
  | ['-', 'h'] => isLink s.view p
  | ['-', 'c'] => sink
  | ['-', c] => (['r', 'w', 'e', 'O', 'G'].contains c) && (sink || node.isSome)
  | _ => false

/-- Where a file stands in the order of changes, the latest one first. -/
def age? (d : Disk) (a : Octets) : Option Nat := do
  let (l, _) ← (d.stat (State.path a)).toOption
  d.nodes.findIdx? fun e => e.1 = l

/-- The tests of two numbers. -/
def comparisons : List (String × (Int → Int → Bool)) := [
  ("-eq", fun a b => a = b), ("-ne", fun a b => a ≠ b), ("-lt", fun a b => a < b),
  ("-le", fun a b => a ≤ b), ("-gt", fun a b => a > b), ("-ge", fun a b => a ≥ b)]

/-- The tests of two texts or files. -/
def relations (d : Disk) : List (String × (Octets → Octets → Bool)) := [
  ("=", fun a b => a = b), ("!=", fun a b => a ≠ b), ("<", Octets.precedes),
  (">", fun a b => Octets.precedes b a),
  ("-nt", fun a b =>
    match age? d a, age? d b with
    | some m, some n => m < n
    | _, _ => false),
  ("-ot", fun a b =>
    match age? d a, age? d b with
    | some m, some n => n < m
    | _, _ => false),
  ("-ef", fun a b =>
    match d.stat (State.path a), d.stat (State.path b) with
    | .ok (l, _), .ok (m, _) => l = m
    | _, _ => false)]

/-- Whether a word is a test of two arguments. -/
def isBinary (op : Octets) : Bool :=
  let name := String.ofList op
  (comparisons.lookup name).isSome || ((relations ⟨[], []⟩).lookup name).isSome

/-- A test of two arguments. -/
def binary (s : State) (op a b : Octets) : Except ConditionFault Bool := do
  let name := String.ofList op
  match comparisons.lookup name with
  | some compare => return compare (← integer a) (← integer b)
  | none =>
    match (relations s.view).lookup name with
    | some relate => return relate a b
    | none => throw (.unexpected a)
where
  /-- The number that a text is. -/
  integer (a : Octets) : Except ConditionFault Int :=
    match Numeral.whole? false a with
    | some n => .ok n
    | none => .error (.illegalNumber a)

/-! ## Grammar -/

/-- What a word is to a condition, with the words behind it in mind. -/
inductive Role where
  | finish
  | operand
  | unary
  | binary
  | not
  | and
  | or
  | opening
  | closing
deriving DecidableEq, Repr

/-- The role of the first of the given words. -/
def roleOf : List Octets → Role
  | [] => .finish
  | w :: rest =>
    if isUnary w then
      match rest with
      | [] => .operand
      | [_] => .unary
      | next :: _ :: _ => if isBinary next then .operand else .unary
    else if isBinary w then .binary
    else
      match w with
      | ['!'] => .not
      | ['-', 'a'] => .and
      | ['-', 'o'] => .or
      | ['('] => if rest.isEmpty then .operand else .opening
      | [')'] => .closing
      | _ => .operand

mutual

/-- Conditions of which one has to be true, from the words whose first one has the given role.  The
last word that belongs to them stays. -/
def disjunction (s : State) :
    Nat → Role → List Octets → Except ConditionFault (Bool × List Octets)
  | 0, _, ws => .ok (false, ws)
  | fuel + 1, role, ws => do
    let (a, ws) ← conjunction s fuel role ws
    if roleOf (ws.drop 1) = .or then
      let rest := ws.drop 2
      let (b, ws) ← disjunction s fuel (roleOf rest) rest
      return (a || b, ws)
    else return (a, ws)

/-- Conditions all of which have to be true. -/
def conjunction (s : State) :
    Nat → Role → List Octets → Except ConditionFault (Bool × List Octets)
  | 0, _, ws => .ok (false, ws)
  | fuel + 1, role, ws => do
    let (a, ws) ← negation s fuel role ws
    if roleOf (ws.drop 1) = .and then
      let rest := ws.drop 2
      let (b, ws) ← conjunction s fuel (roleOf rest) rest
      return (a && b, ws)
    else return (a, ws)

/-- A condition, perhaps behind exclamation marks. -/
def negation (s : State) :
    Nat → Role → List Octets → Except ConditionFault (Bool × List Octets)
  | 0, _, ws => .ok (false, ws)
  | fuel + 1, role, ws => do
    if role = .not then
      let rest := ws.drop 1
      let (a, after) ← negation s fuel (roleOf rest) (if rest.isEmpty then ws else rest)
      return (!a, after)
    else primary s fuel role ws

/-- A test, a text, or conditions in parentheses. -/
def primary (s : State) :
    Nat → Role → List Octets → Except ConditionFault (Bool × List Octets)
  | 0, _, ws => .ok (false, ws)
  | fuel + 1, role, ws => do
    match role, ws with
    | .finish, ws => return (false, ws)
    | _, [] => return (false, [])
    | .opening, _ :: rest =>
      if roleOf rest = .closing then return (false, rest)
      let (a, rest) ← disjunction s fuel (roleOf rest) rest
      if roleOf (rest.drop 1) = .closing then return (a, rest.drop 1) else throw .unclosed
    | .unary, op :: rest =>
      match rest with
      | a :: _ => return (unary s op a, rest)
      | [] => throw (.missingArgument op)
    | _, a :: rest =>
      match rest with
      | op :: behind =>
        if isBinary op then
          match behind with
          | b :: _ => return (← binary s op a b, behind)
          | [] => throw (.missingArgument op)
        else return (!a.isEmpty, ws)
      | [] => return (!a.isEmpty, ws)

end

/-- Whether the words of a condition are true, where the first one has the given role. -/
def whole (s : State) (role : Role) (ws : List Octets) : Except ConditionFault Bool := do
  let (a, rest) ← disjunction s (4 * ws.length + 8) role ws
  match rest with
  | w :: _ :: _ => throw (.unexpected w)
  | _ => return a

/-- Whether the words are true, or whether they are not if `inverted` is true.  With few words the
operator in the middle counts first, then parentheses, then an exclamation mark, where any more of
them change nothing. -/
def evaluateFrom (s : State) (inverted : Bool) : List Octets → Except ConditionFault Bool
  | [] => .ok false
  | w :: rest =>
    let ws := w :: rest
    let answer (role : Role) (ws : List Octets) : Except ConditionFault Bool :=
      (whole s role ws).map (· != inverted)
    if rest.length = 2 && (rest.head?.map isBinary).getD false then answer .operand ws
    else if rest.length = 2 || rest.length = 3 then
      if w = ['('] && rest.getLast? = some [')'] then
        answer (roleOf rest.dropLast) rest.dropLast
      else if w = ['!'] then evaluateFrom s true rest
      else answer (roleOf ws) ws
    else answer (roleOf ws) ws

/-- Whether the words are true. -/
def evaluate (s : State) (ws : List Octets) : Except ConditionFault Bool :=
  evaluateFrom s false ws

end Condition

end LintBridge.Shell
