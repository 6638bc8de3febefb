/-
# Shell scripts

The commands of a shell script and the words they are made of.  The text that follows a command in
the script is kept apart from it: the command knows it by its number.
-/
import LintBridge.Text.Utf8

namespace LintBridge.Shell

/-- What is made of the value of a parameter. -/
inductive Use where
  /-- The value itself. -/
  | plain
  /-- The number of its bytes. -/
  | length
  /-- The operand if there is no value, or if it is empty and `colon` is true. -/
  | orElse (colon : Bool)
  /-- The same, where the parameter takes the operand as its value. -/
  | assign (colon : Bool)
  /-- The operand if there is a value, which is not empty if `colon` is true. -/
  | instead (colon : Bool)
  /-- The value, without which the script ends with the operand as its last words. -/
  | demand (colon : Bool)
  /-- The value without what the operand matches at its front. -/
  | dropFront (longest : Bool)
  /-- The value without what the operand matches at its back. -/
  | dropBack (longest : Bool)
  /-- No use at all: a script that gets here ends. -/
  | malformed
deriving DecidableEq, Repr

/-- How a file is opened for writing. -/
inductive Opening where
  /-- Its content is lost, unless the script asks for care. -/
  | truncate
  /-- Its content is lost in any case. -/
  | clobber
  /-- What is written follows its content. -/
  | append
  /-- It is read and written from its start. -/
  | update
deriving DecidableEq, Repr

mutual

/-- A part of a word.  Only what is not quoted is cut into several words. -/
inductive Part where
  | literal (text : Octets) (quoted : Bool)
  | parameter (name : Octets) (use : Use) (operand : List Part) (quoted : Bool)
  /-- What a command prints. -/
  | output (body : Command) (quoted : Bool)
  /-- The value of an arithmetic expression. -/
  | arithmetic (expression : List Part) (quoted : Bool)

/-- Where a descriptor of a command reads from or writes to. -/
inductive Redirect where
  | toFile (descriptor : Nat) (opening : Opening) (target : List Part)
  | fromFile (descriptor : Nat) (source : List Part)
  /-- What another descriptor stands for; a dash closes the descriptor. -/
  | copy (descriptor : Nat) (source : List Part)
  /-- The text of the given number. -/
  | fromText (descriptor : Nat) (text : Nat)

/-- A command. -/
inductive Command where
  | nothing
  | simple (line : Nat) (assignments : List (Octets × List Part)) (words : List (List Part))
      (redirects : List Redirect)
  /-- One command after the other. -/
  | sequence (first second : Command)
  /-- The second command if the first one succeeds. -/
  | both (first second : Command)
  /-- The second command if the first one fails. -/
  | either (first second : Command)
  | negated (body : Command)
  /-- Every command reads what the one before it writes. -/
  | pipe (commands : List Command)
  /-- A command that is not waited for. -/
  | background (body : Command)
  /-- A command with redirections, whose changes are its own if `isolated` is true. -/
  | grouped (line : Nat) (isolated : Bool) (body : Command) (redirects : List Redirect)
  | choice (condition yes no : Command)
  /-- Repeat the body as long as the condition succeeds, or fails if `inverted` is true. -/
  | loop (inverted : Bool) (condition body : Command)
  /-- Run the body for every word, or for every argument. -/
  | each (line : Nat) (name : Octets) (words : Option (List (List Part))) (body : Command)
  /-- Run the body of the first arm with a pattern that matches. -/
  | arms (line : Nat) (word : List Part) (options : List (List (List Part) × Command))
  | define (name : Octets) (body : Command)

end

instance : Inhabited Command := ⟨.nothing⟩

/-- A word. -/
abbrev Word := List Part

/-- A character in front of a word, quoted or not. -/
def Word.cons (c : Char) (quoted : Bool) : Word → Word
  | .literal text q :: rest =>
    if q = quoted then .literal (c :: text) q :: rest
    else .literal [c] quoted :: .literal text q :: rest
  | w => .literal [c] quoted :: w

/-- The text of a word without quotes and parameters. -/
def Word.plain? : Word → Option Octets
  | [] => some []
  | .literal text false :: rest => (Word.plain? rest).map (text ++ ·)
  | _ => none

/-- The text of a word, quotes taken off. -/
def Word.text : Word → Octets
  | [] => []
  | .literal text _ :: rest => text ++ Word.text rest
  | _ :: rest => Word.text rest

/-- Whether any part of a word is quoted. -/
def Word.isQuoted (w : Word) : Bool :=
  w.any fun
    | .literal _ quoted => quoted
    | .parameter _ _ _ quoted => quoted
    | .output _ quoted => quoted
    | .arithmetic _ quoted => quoted

/-- Whether a character may start a name. -/
def startsName (c : Char) : Bool := c.isAlpha || c = '_'

/-- Whether a character may stand in a name. -/
def inName (c : Char) : Bool := c.isAlphanum || c = '_'

/-- Whether a text is a name. -/
def isName (s : Octets) : Bool :=
  match s with
  | c :: rest => startsName c && rest.all inName
  | [] => false

/-- The name and the value of an assignment. -/
def Word.assignment? : Word → Option (Octets × Word)
  | .literal text false :: rest =>
    let name := text.takeWhile (· ≠ '=')
    match text.dropWhile (· ≠ '=') with
    | _ :: value =>
      if isName name then
        some (name, if value.isEmpty then rest else .literal value false :: rest)
      else none
    | [] => none
  | _ => none

end LintBridge.Shell
