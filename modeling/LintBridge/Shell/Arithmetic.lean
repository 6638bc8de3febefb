/-
# Arithmetic

The expressions over whole numbers between `$((` and `))`.  A part of an expression that does not
count is read, but neither sets a variable nor divides.

* `Lexeme.next`: the parts that an expression is made of.
* `Shell.calculate`: the value of an expression, or what is wrong with it.
-/
import LintBridge.Shell.Machine
import LintBridge.Shell.Numeral

namespace LintBridge.Shell

/-- What is wrong with an expression. -/
inductive ArithmeticFault where
  | divisionByZero
  /-- A number, a variable or an opening parenthesis is missing. -/
  | missingOperand
  /-- A parenthesis is not closed. -/
  | missingClose
  /-- The second half of a choice is missing. -/
  | missingColon
  /-- Something follows the expression. -/
  | trailing
  /-- The value of a variable is no number. -/
  | illegalNumber (text : Octets)
  /-- A variable that keeps its value is to be set. -/
  | readOnly (name : Octets)
deriving DecidableEq, Repr

/-- The wording of a fault in an expression. -/
def ArithmeticFault.message (expression : Octets) (e : ArithmeticFault) : String :=
  let wrong (reason : String) : String :=
    "arithmetic expression: " ++ reason ++ ": \"" ++ Octets.decode expression ++ "\""
  match e with
  | divisionByZero => wrong "division by zero"
  | missingOperand => wrong "expecting primary"
  | missingClose => wrong "expecting ')'"
  | missingColon => wrong "expecting ':'"
  | trailing => wrong "expecting EOF"
  | illegalNumber text => "Illegal number: " ++ Octets.decode text
  | readOnly name => Octets.decode name ++ ": is read only"

/-! ## The parts of an expression -/

/-- A part of an expression. -/
inductive Lexeme where
  | number (value : Int)
  | name (text : Octets)
  | mark (text : String)
  /-- The end of the expression. -/
  | finish
  /-- A character that has no meaning. -/
  | unknown
deriving DecidableEq, Repr

/-- The marks of an expression; one that starts like another one stands before it. -/
def arithmeticMarks : List String := ["<<=", ">>=", "<<", ">>", "<=", ">=", "==", "!=", "&&", "||",
  "*=", "/=", "%=", "+=", "-=", "&=", "|=", "^=", "<", ">", "!", "&", "|", "*", "/", "%", "+", "-",
  "^", "=", "(", ")", "?", ":", "~"]

/-- The next part of an expression and what follows it. -/
def Lexeme.next (s : Octets) : Lexeme × Octets :=
  match s.dropWhile fun c => c = ' ' || c = '\t' || c = '\n' with
  | [] => (finish, [])
  | c :: s =>
    if c.isDigit then
      match Numeral.leading? true (c :: s) with
      | some (n, rest) => (number (Numeral.clamp n), rest)
      | none => (unknown, s)
    else if startsName c then (name (c :: s.takeWhile inName), s.dropWhile inName)
    else
      match arithmeticMarks.find? fun m => m.toList.isPrefixOf (c :: s) with
      | some m => (mark m, (c :: s).drop m.length)
      | none => (unknown, s)

/-- An operator of two arguments. -/
abbrev Operator := Int → Int → Except ArithmeticFault Int

/-- An operator that has a value for all arguments. -/
def Operator.of (f : Int → Int → Int) : Operator := fun a b => .ok (Numeral.wrap (f a b))

/-- The number that tells whether something is true. -/
def truth (b : Bool) : Int := if b then 1 else 0

/-- An operator that tells whether something is true. -/
def Operator.test (f : Int → Int → Bool) : Operator := .of fun a b => truth (f a b)

/-- An operator on the bits of its arguments. -/
def Operator.bitwise (f : Nat → Nat → Nat) : Operator :=
  .of fun a b => f (Numeral.bits a) (Numeral.bits b)

/-- An operator that has no value if its second argument is zero. -/
def Operator.quotient (f : Int → Int → Int) : Operator := fun a b =>
  if b = 0 then .error .divisionByZero else .ok (Numeral.wrap (f a b))

/-- An operator that moves the bits of its first argument. -/
def Operator.shift (f : Int → Nat → Int) : Operator :=
  .of fun a b => f a (Numeral.bits b % 64)

/-- The operators of two arguments, level by level; those of the last level bind closest. -/
def operators : List (List (String × Operator)) :=
  [[("|", .bitwise (· ||| ·))],
    [("^", .bitwise (· ^^^ ·))],
    [("&", .bitwise (· &&& ·))],
    [("==", .test fun a b => a = b), ("!=", .test fun a b => a ≠ b)],
    [("<=", .test fun a b => a ≤ b), (">=", .test fun a b => a ≥ b),
      ("<", .test fun a b => a < b), (">", .test fun a b => a > b)],
    [("<<", .shift fun a n => a * (Nat.pow 2 n : Nat)), (">>", .shift fun a n => a >>> n)],
    [("+", .of (· + ·)), ("-", .of (· - ·))],
    [("*", .of (· * ·)), ("/", .quotient Int.tdiv), ("%", .quotient Int.tmod)]]

/-- The operator of a mark that sets a variable.  There is none inside of the mark if the variable
takes the value as it is. -/
def assigning? (m : String) : Option (Option Operator) :=
  if m = "=" then some none
  else
    operators.flatten.findSome? fun op =>
      if op.1 ++ "=" = m && op.1 ≠ "<" && op.1 ≠ ">" then some (some op.2) else none

/-! ## Values -/

/-- A step of a calculation, on what is left of the expression and the state of the script. -/
abbrev Calculator (α : Type) := StateT (Octets × State) (Except ArithmeticFault) α

/-- The next part of the expression, which stays. -/
def ahead : Calculator Lexeme := do return (Lexeme.next (← get).1).1

/-- Pass the next part of the expression. -/
def passLexeme : Calculator Unit := modify fun r => ((Lexeme.next r.1).2, r.2)

/-- Pass a mark if it comes next. -/
def passMark (m : String) : Calculator Bool := do
  if (← ahead) = .mark m then
    passLexeme
    return true
  else return false

/-- The value of a variable as a number. -/
def variableNumber (name : Octets) : Calculator Int := do
  match (← get).2.valueOf? name with
  | none => return 0
  | some text =>
    if text.all Numeral.isSpace then return 0
    match Numeral.whole? true text with
    | some n => return n
    | none => throw (.illegalNumber text)

/-- Set a variable to a number, which is the result. -/
def setNumber (name : Octets) (n : Int) : Calculator Int := do
  let (rest, s) ← get
  if s.isFixed name then throw (.readOnly name)
  set (rest, s.set name (Numeral.text n))
  return n

/-- The name and the operator of an assignment, if one comes next. -/
def assignmentAhead : Calculator (Option (Octets × Option Operator × Octets)) := do
  match Lexeme.next (← get).1 with
  | (.name x, rest) =>
    match Lexeme.next rest with
    | (.mark m, rest) => return (assigning? m).map fun op => (x, op, rest)
    | _ => return none
  | _ => return none

mutual

/-- An assignment, or a choice; nothing is set or divided unless `live` is true. -/
def assignment : Nat → Bool → Calculator Int
  | 0, _ => throw .missingOperand
  | fuel + 1, live => do
    match ← assignmentAhead with
    | none => choice fuel live
    | some (name, op, rest) =>
      modify fun r => (rest, r.2)
      let n ← assignment fuel live
      if !live then return n
      match op with
      | none => setNumber name n
      | some op => setNumber name (← op (← variableNumber name) n)

/-- One of two values, after a condition. -/
def choice : Nat → Bool → Calculator Int
  | 0, _ => throw .missingOperand
  | fuel + 1, live => do
    let a ← disjunction fuel live
    if ← passMark "?" then
      let yes ← assignment fuel (live && a ≠ 0)
      if !(← passMark ":") then throw .missingColon
      let no ← choice fuel (live && a = 0)
      return if a ≠ 0 then yes else no
    else return a

/-- Whether one of several values is not zero. -/
def disjunction : Nat → Bool → Calculator Int
  | 0, _ => throw .missingOperand
  | fuel + 1, live => do
    let a ← conjunction fuel live
    if ← passMark "||" then
      let b ← disjunction fuel (live && a = 0)
      return truth (a ≠ 0 || b ≠ 0)
    else return a

/-- Whether none of several values is zero. -/
def conjunction : Nat → Bool → Calculator Int
  | 0, _ => throw .missingOperand
  | fuel + 1, live => do
    let a ← level fuel live operators
    if ← passMark "&&" then
      let b ← conjunction fuel (live && a ≠ 0)
      return truth (a ≠ 0 && b ≠ 0)
    else return a

/-- An expression of the given levels of operators. -/
def level : Nat → Bool → List (List (String × Operator)) → Calculator Int
  | 0, _, _ => throw .missingOperand
  | fuel + 1, live, [] => operand fuel live
  | fuel + 1, live, ops :: rest => do
    let a ← level fuel live rest
    more fuel live ops rest a

/-- What follows the first argument of operators of a level. -/
def more : Nat → Bool → List (String × Operator) → List (List (String × Operator)) → Int →
    Calculator Int
  | 0, _, _, _, _ => throw .missingOperand
  | fuel + 1, live, ops, rest, a => do
    match ← ahead with
    | .mark m =>
      match ops.lookup m with
      | none => return a
      | some op =>
        passLexeme
        let b ← level fuel live rest
        more fuel live ops rest (← if live then op a b else pure b)
    | _ => return a

/-- A number, a variable, or an expression in parentheses, perhaps behind signs. -/
def operand : Nat → Bool → Calculator Int
  | 0, _ => throw .missingOperand
  | fuel + 1, live => do
    let l ← ahead
    match l with
    | .number n =>
      passLexeme
      return n
    | .name x =>
      passLexeme
      if live then variableNumber x else return 0
    | .mark "(" =>
      passLexeme
      let n ← assignment fuel live
      if ← passMark ")" then return n else throw .missingClose
    | .mark "+" =>
      passLexeme
      operand fuel live
    | .mark "-" =>
      passLexeme
      return Numeral.wrap (-(← operand fuel live))
    | .mark "!" =>
      passLexeme
      return truth ((← operand fuel live) = 0)
    | .mark "~" =>
      passLexeme
      return -(← operand fuel live) - 1
    | _ => throw .missingOperand

end

/-- The value of an expression and the state after it. -/
def calculate (s : State) (expression : Octets) : Except ArithmeticFault (Int × State) := do
  let (n, rest, s) ← assignment (16 * expression.length + 64) true (expression, s)
  if (Lexeme.next rest).1 = .finish then .ok (n, s) else .error .trailing

end LintBridge.Shell
