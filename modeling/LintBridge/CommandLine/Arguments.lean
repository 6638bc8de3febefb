/-
# Arguments of the command line

The arguments name a command, its options and its operands.  They are read from left to right, and
the first thing that is wrong with them ends the reading, as does a question for help or for the
version.

* `Request`: what is asked for.
* `CommandLine.parse`: the request that arguments stand for.
-/
import LintBridge.Path.Basic

namespace LintBridge

/-- How publications are reported. -/
inductive ReportFormat where
  | text
  | json
deriving DecidableEq, Repr, Inhabited

/-- What a command line asks for. -/
inductive Request where
  /-- Lint a file and report its diagnostics. -/
  | lint (file : Path) (format : ReportFormat)
  /-- Fix a file and report what is left. -/
  | fix (file : Path) (format : ReportFormat)
  /-- Print the diagnostics of a report, which is read from the standard input without a file. -/
  | normalize (input : Option Path)
  /-- Serve an editor. -/
  | serve
  /-- Write a settings file, over an existing one if `force` is true. -/
  | init (force : Bool)
deriving DecidableEq, Repr, Inhabited

/-- A request with the settings file to be used for it. -/
structure CommandLine where
  /-- The settings file, if it is not to be looked for. -/
  config : Option Path
  /-- Whether more is said about the work. -/
  verbose : Bool
  /-- What is asked for. -/
  request : Request
deriving DecidableEq, Repr, Inhabited

namespace CommandLine

/-- Why arguments do not stand for a request. -/
inductive Stop where
  /-- Something is wrong with them. -/
  | misuse
  /-- They ask for help. -/
  | help
  /-- They ask for the version. -/
  | version
deriving DecidableEq, Repr

/-- An option. -/
inductive Flag where
  | config
  | verbose
  | format
  | force
  | help
  | version
deriving DecidableEq, Repr

namespace Flag

/-- The long name of an option. -/
def word : Flag → String
  | config => "config"
  | verbose => "verbose"
  | format => "format"
  | force => "force"
  | help => "help"
  | version => "version"

/-- The letter of an option. -/
def letter? : Flag → Option Char
  | config => some 'c'
  | verbose => some 'v'
  | format => some 'f'
  | force => none
  | help => some 'h'
  | version => some 'V'

/-- Whether an option has a value. -/
def takesValue : Flag → Bool
  | config => true
  | format => true
  | _ => false

end Flag

/-- What has been read at one level: before the command, or after it. -/
structure Level where
  config : Option Path := none
  verbose : Bool := false
  format : Option ReportFormat := none
  force : Bool := false
  operands : List Path := []
  /-- Whether the value in front of the command is wrong, which counts only after the command. -/
  spoiled : Bool := false
deriving Inhabited

/-- The formats with their names. -/
def formats : List (String × ReportFormat) := [("text", .text), ("json", .json)]

/-- Take an option without a value into account; an option may be given once. -/
def Level.turnOn (l : Level) : Flag → Except Stop Level
  | .verbose => if l.verbose then .error .misuse else .ok { l with verbose := true }
  | .force => if l.force then .error .misuse else .ok { l with force := true }
  | .help => .error .help
  | .version => .error .version
  | _ => .error .misuse

/-- Take an option with its value into account; an option may be given once. -/
def Level.assign (l : Level) (flag : Flag) (value : String) : Except Stop Level :=
  match flag with
  | .config =>
    if l.config.isSome || value.isEmpty then .error .misuse
    else .ok { l with config := some ⟨value⟩ }
  | .format =>
    match l.format, formats.lookup value with
    | none, some f => .ok { l with format := some f }
    | _, _ => .error .misuse
  | _ => .error .misuse

/-- What an argument with letters leads to: the option at its end may still need its value. -/
def letters (flags : List Flag) : Level → List Char → Except Stop (Level × Option Flag)
  | l, [] => .ok (l, none)
  | l, c :: rest =>
    match flags.find? fun f => f.letter? = some c with
    | none => .error .misuse
    | some f =>
      if f.takesValue then
        match rest with
        | [] => .ok (l, some f)
        | '=' :: value => do return (← l.assign f (String.ofList value), none)
        | value => do return (← l.assign f (String.ofList value), none)
      else do letters flags (← l.turnOn f) rest

/-- What an argument with a long name leads to: the option may still need its value. -/
def longOption (flags : List Flag) (l : Level) (s : List Char) :
    Except Stop (Level × Option Flag) :=
  let name := String.ofList (s.takeWhile (· ≠ '='))
  match flags.find? fun f => f.word = name, s.dropWhile (· ≠ '=') with
  | none, _ => .error .misuse
  | some f, [] => if f.takesValue then .ok (l, some f) else do return (← l.turnOn f, none)
  | some f, _ :: value => do
    if f.takesValue then return (← l.assign f (String.ofList value), none) else .error .misuse

/-- Whether an argument is a value or an operand, and not an option. -/
def isPlain (a : String) : Bool :=
  match a.toList with
  | '-' :: _ :: _ => false
  | _ => true

/-- Take operands into account, of which there are at most `most`; they name files. -/
def Level.operate (most : Nat) (l : Level) (operands : List String) : Except Stop Level :=
  if l.operands.length + operands.length ≤ most ∧ operands.all (!·.isEmpty) then
    .ok { l with operands := l.operands ++ operands.map Path.mk }
  else .error .misuse

/-- Read the arguments of a level.  Before the command (`most` is none) the first operand ends the
level and is the command; after it at most so many operands are taken. -/
def readLevel (flags : List Flag) (most : Option Nat) :
    Level → Option Flag → List String → Except Stop (Level × Option (String × List String))
  | l, none, [] => .ok (l, none)
  | _, some _, [] => .error .misuse
  | l, some f, a :: rest =>
    if isPlain a then
      match l.assign f a, most, rest with
      | .ok l, _, _ => readLevel flags most l none rest
      | .error e, none, command :: rest =>
        if isPlain command then .ok ({ l with spoiled := true }, some (command, rest)) else .error e
      | .error e, _, _ => .error e
    else .error .misuse
  | l, none, a :: rest =>
    match a.toList, most with
    | ['-', '-'], none => .error .misuse
    | ['-', '-'], some n => do return (← l.operate n rest, none)
    | '-' :: '-' :: s, _ => do
      let (l, pending) ← longOption flags l s
      readLevel flags most l pending rest
    | '-' :: c :: s, _ => do
      let (l, pending) ← letters flags l (c :: s)
      readLevel flags most l pending rest
    | _, none => .ok (l, some (a, rest))
    | _, some n => do readLevel flags most (← l.operate n [a]) none rest

/-- The options before the command. -/
def commonFlags : List Flag := [.config, .verbose, .help, .version]

/-- The options after a command, and the greatest number of its operands; none if there is no such
command. -/
def signature? : String → Option (List Flag × Nat)
  | "lint" => some ([.format, .config, .verbose, .help], 1)
  | "fix" => some ([.format, .config, .verbose, .help], 1)
  | "normalize" => some ([.config, .verbose, .help], 1)
  | "serve" => some ([.config, .verbose, .help], 0)
  | "init" => some ([.force, .config, .verbose, .help], 0)
  | _ => none

/-- The request of a command with what was read after it. -/
def requestOf (command : String) (l : Level) : Except Stop Request :=
  match command, l.operands with
  | "lint", [file] => .ok (.lint file (l.format.getD .text))
  | "fix", [file] => .ok (.fix file (l.format.getD .text))
  | "normalize", [] => .ok (.normalize none)
  | "normalize", [file] => .ok (.normalize (some file))
  | "serve", [] => .ok .serve
  | "init", [] => .ok (.init l.force)
  | _, _ => .error .misuse

/-- What a question for help on a command comes to. -/
def helpOn : List String → Stop
  | [] => .help
  | [name] => if name = "help" || (signature? name).isSome then .help else .misuse
  | _ => .misuse

/-- The request that arguments stand for.  An option after the command counts before the same one
in front of it. -/
def parse (arguments : List String) : Except Stop CommandLine := do
  match ← readLevel commonFlags none {} none arguments with
  | (_, none) => .error .misuse
  | (before, some (command, rest)) =>
    match signature? command with
    | none => .error (if command = "help" then helpOn rest else .misuse)
    | some (flags, most) =>
      let (after, _) ← readLevel flags (some most) {} none rest
      let request ← requestOf command after
      if before.spoiled then .error .misuse
      return ⟨after.config.or before.config, before.verbose || after.verbose, request⟩

end CommandLine

end LintBridge
