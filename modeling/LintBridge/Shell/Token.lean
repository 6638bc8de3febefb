/-
# Tokens of shell scripts

What a script is cut into before it is put together to commands, and where the reading stands.

* `Token`: the tokens; their names in complaints.
* `Cursor`: what is left to be read.
* `SyntaxFault`: why a script cannot be read.
-/
import LintBridge.Shell.Syntax

namespace LintBridge.Shell

/-- The kind of a redirection that has been announced. -/
inductive Arrow where
  | output (opening : Opening)
  | input
  /-- Copy a descriptor. -/
  | copy
  /-- A text that follows, perhaps without the tabs at the front of its lines. -/
  | text (strip : Bool)
deriving DecidableEq, Repr

/-- A token of a script. -/
inductive Token where
  | word (word : Word)
  | arrow (descriptor : Nat) (kind : Arrow)
  | newline
  | endOfFile
  /-- An operator or a word that has a meaning of its own here. -/
  | mark (text : String)

/-- The name of a token in a complaint. -/
def Token.name : Token → String
  | word _ => "word"
  | arrow _ _ => "redirection"
  | newline => "newline"
  | endOfFile => "end of file"
  | mark text => "\"" ++ text ++ "\""

/-- Whether a token is the given operator or keyword. -/
def Token.isMark (text : String) : Token → Bool
  | mark t => t = text
  | _ => false

/-- The words that may have a meaning of their own. -/
def keywords : List String := ["!", "case", "do", "done", "elif", "else", "esac", "fi", "for", "if",
  "in", "then", "until", "while", "\x7b", "\x7d"]

/-- Whether a token ends a list of commands. -/
def Token.endsList : Token → Bool
  | endOfFile => true
  | mark t =>
    [")", ";;", "do", "done", "elif", "else", "esac", "fi", "then", "\x7d"].contains t
  | _ => false

/-- Why a script cannot be read. -/
inductive SyntaxError where
  /-- A token stands where it may not, and perhaps another one should. -/
  | unexpected (found : String) (expected : Option String)
  | unclosedQuote
  | unclosedBackquote
  | unclosedBrace
  | unclosedArithmetic
  | badLoopVariable
  | badFunctionName
  | badDescriptor
  /-- The reading did not come to an end. -/
  | exhausted
deriving DecidableEq, Repr

/-- The wording of an error. -/
def SyntaxError.message : SyntaxError → String
  | unexpected found none => found ++ " unexpected"
  | unexpected found (some expected) => found ++ " unexpected (expecting " ++ expected ++ ")"
  | unclosedQuote => "Unterminated quoted string"
  | unclosedBackquote => "EOF in backquote substitution"
  | unclosedBrace => "Missing '\x7d'"
  | unclosedArithmetic => "Missing '))'"
  | badLoopVariable => "Bad for loop variable"
  | badFunctionName => "Bad function name"
  | badDescriptor => "Bad fd number"
  | exhausted => "too deep"

/-- An error and the line on which it was met. -/
structure SyntaxFault where
  line : Nat
  error : SyntaxError
deriving DecidableEq, Repr

/-- A text that has been announced and follows the line. -/
structure Waiting where
  /-- The number by which the command knows it. -/
  number : Nat
  /-- The line that ends it. -/
  last : Octets
  /-- Whether nothing in it is expanded. -/
  quoted : Bool
  /-- Whether tabs at the front of its lines are dropped. -/
  strip : Bool
deriving DecidableEq, Repr

/-- What is left to be read of a script, and what has been met on the way. -/
structure Cursor where
  rest : Octets
  line : Nat
  /-- A token that has been put back. -/
  ahead : Option Token := none
  /-- The token that was read last. -/
  recent : Token := .newline
  waiting : List Waiting := []
  /-- The texts that have been read, by their numbers. -/
  texts : List (Nat × Word) := []
  /-- How many texts have been announced. -/
  count : Nat := 0
  /-- The words that stand for other texts. -/
  aliases : List (Octets × Octets) := []
  /-- The aliases whose texts are being read, and how much is left of the script behind each. -/
  within : List (Octets × Nat) := []

/-- A step of the reading. -/
abbrev Reader (α : Type) := StateT Cursor (Except SyntaxFault) α

/-- The reading ends with an error. -/
def fault {α : Type} (error : SyntaxError) : Reader α := do
  throw ⟨(← get).line, error⟩

/-- The token that was read last may not stand here. -/
def unexpected {α : Type} (expected : Option String) : Reader α := do
  fault (.unexpected (← get).recent.name expected)

/-- A text without the line ends at its front that a backslash takes back, and their number. -/
def joinLines : Octets → Nat → Octets × Nat
  | '\\' :: '\n' :: rest, n => joinLines rest (n + 1)
  | s, n => (s, n)

/-- The next character, which stays. -/
def peek : Reader (Option Char) := do
  let c ← get
  let (rest, line) := joinLines c.rest c.line
  set { c with rest := rest, line := line }
  return rest.head?

/-- Pass the next character. -/
def pass : Reader Unit :=
  modify fun c =>
    match c.rest with
    | [] => c
    | x :: rest => { c with rest := rest, line := if x = '\n' then c.line + 1 else c.line }

/-- Pass the next character if it is the given one. -/
def passIf (x : Char) : Reader Bool := do
  if (← peek) = some x then
    pass
    return true
  else return false

/-- The characters up to one that does not belong, which stays. -/
def takeChars (belongs : Char → Bool) : Reader Octets := do
  let c ← get
  go c.rest.length
where
  /-- At most so many characters. -/
  go : Nat → Reader Octets
    | 0 => return []
    | n + 1 => do
      match ← peek with
      | some x =>
        if belongs x then
          pass
          return x :: (← go n)
        else return []
      | none => return []

/-- The text up to the given character, which is passed. -/
def upTo (x : Char) (error : SyntaxError) : Reader Octets := do
  let c ← get
  match c.rest.dropWhile (· ≠ x) with
  | [] =>
    set { c with rest := [], line := c.line + c.rest.count '\n' }
    fault error
  | _ :: rest =>
    let text := c.rest.takeWhile (· ≠ x)
    set { c with rest := rest, line := c.line + text.count '\n' }
    return text

/-- The text between backquotes up to the closing one, which is passed.  A backslash in front of a
character of `special` is dropped. -/
def backquoted (special : List Char) : Nat → Reader Octets
  | 0 => fault .exhausted
  | fuel + 1 => do
    match ← peek with
    | none => fault .unclosedBackquote
    | some '\x60' =>
      pass
      return []
    | some '\\' =>
      pass
      match (← get).rest with
      | x :: _ =>
        if special.contains x then
          pass
          return x :: (← backquoted special fuel)
        else return '\\' :: (← backquoted special fuel)
      | [] => return '\\' :: (← backquoted special fuel)
    | some x =>
      pass
      return x :: (← backquoted special fuel)

/-! ## Texts that follow -/

/-- The lines up to the one that ends the text, what is behind that, and how many lines were
passed. -/
def linesUpTo (w : Waiting) : Nat → Octets → Octets × Octets × Nat
  | 0, s => ([], s, 0)
  | _, [] => ([], [], 0)
  | fuel + 1, s =>
    let s := if w.strip then s.dropWhile (· = '\t') else s
    let line := s.takeWhile (· ≠ '\n')
    let behind := s.dropWhile (· ≠ '\n')
    if line = w.last then ([], behind.drop 1, behind.length - (behind.drop 1).length)
    else
      match behind with
      | [] => (line, [], 0)
      | _ :: rest =>
        let (text, rest, lines) := linesUpTo w fuel rest
        (line ++ '\n' :: text, rest, lines + 1)

/-- Pass the line that ends a text, if it is the next one, and otherwise the tabs at the front of
the line that are dropped. -/
def passLast (w : Waiting) : Reader Bool := do
  let c ← get
  let s := if w.strip then c.rest.dropWhile (· = '\t') else c.rest
  let behind := s.drop w.last.length
  if w.last.isPrefixOf s && (behind.isEmpty || behind.head? = some '\n') then
    set { c with rest := behind }
    pass
    return true
  else
    set { c with rest := s }
    return false

/-- Keep a text that has been read. -/
def keepText (number : Nat) (text : Word) : Reader Unit :=
  modify fun c => { c with texts := (number, text) :: c.texts }

end LintBridge.Shell
