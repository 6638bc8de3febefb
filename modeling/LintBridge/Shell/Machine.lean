/-
# The state of a running script

A process has its variables, functions and descriptors to itself.  The disk, the open files and what
has been printed belong to all processes alike.

* `OpenFile`: a file that descriptors lead to, with the place where reading or writing goes on.
* `Process`, `World`, `State`: what belongs to one process, to all of them, and both together.
* `State.print`, `State.complain`, `State.blame`: writing.
* `Flow`, `Ending`: how a command and a process end.
-/
import LintBridge.Disk
import LintBridge.Shell.Numeral
import LintBridge.Shell.Token

namespace LintBridge.Shell

/-- Where an open file leads. -/
inductive Target where
  /-- To what is printed; output 0 and error 1 are those of the whole run. -/
  | buffer (index : Nat)
  | file (place : Location)
  /-- Nowhere. -/
  | void
  /-- To a text that can be read. -/
  | supply (text : Octets)
deriving DecidableEq, Repr

/-- An open file. -/
structure OpenFile where
  target : Target
  /-- Where reading or writing goes on. -/
  position : Nat := 0
  /-- Whether writing goes on at the end of the file. -/
  appends : Bool := false
  readable : Bool := true
  writable : Bool := true
deriving DecidableEq, Repr

/-- A variable. -/
structure Variable where
  /-- Its value, if it has one. -/
  value : Option Octets
  /-- Whether programs get to see it. -/
  exported : Bool := false
  /-- Whether it keeps its value for good. -/
  fixed : Bool := false
deriving DecidableEq, Repr

/-- How a command ends. -/
inductive Flow where
  /-- The next command follows. -/
  | next
  /-- The script ends with an exit code. -/
  | leave (code : Nat)
  /-- The script ends because of an error, unless a utility met it that is not a special one. -/
  | broken (code : Nat)
  /-- The process is ended by a signal. -/
  | killed (signal : Nat)
  /-- So many loops end. -/
  | leaveLoops (count : Nat)
  /-- So many loops less one end, and the next one starts another round. -/
  | nextRound (count : Nat)
  /-- A function ends. -/
  | finish
deriving DecidableEq, Repr

/-- How a process ends. -/
inductive Ending where
  | exited (code : Nat)
  | killed (signal : Nat)
deriving DecidableEq, Repr

/-- The exit code by which others know of an ending. -/
def Ending.status : Ending → Nat
  | exited code => code
  | killed signal => 128 + signal

/-- What belongs to one process. -/
structure Process where
  /-- The name of the script. -/
  name : Octets
  /-- Its arguments. -/
  arguments : List Octets
  /-- Its current directory. -/
  current : Location
  /-- The path that led to the current directory. -/
  directory : Octets
  bindings : List (Octets × Variable)
  functions : List (Octets × Command) := []
  aliases : List (Octets × Octets) := []
  /-- The texts that follow commands, by their numbers. -/
  texts : List (Nat × Word) := []
  /-- How many texts there are. -/
  textCount : Nat := 0
  /-- The exit code of the last command. -/
  status : Nat := 0
  /-- The letters of the options that are on. -/
  options : List Char := []
  /-- What the process does when it ends, under the number 0, or when a signal arrives, under that
  of the signal; nothing is done for an empty text. -/
  traps : List (Nat × Octets) := []
  /-- The exit code of the last command before what is done because of a signal or of the end. -/
  beforeTrap : Option Nat := none
  /-- Whether somebody looks at failures, so that they do not end the script. -/
  tested : Bool := false
  /-- The name of the utility that is run. -/
  utility : Option Octets := none
  /-- Whether the script has to end because a word could not be expanded. -/
  doomed : Bool := false
  /-- The line of the command that is run. -/
  line : Nat := 0
  /-- The line up to which the script has been read. -/
  lineRead : Nat := 1
  /-- The number of loops around the command that is run. -/
  loops : Nat := 0
  /-- The number of functions around the command that is run. -/
  calls : Nat := 0
  /-- What the variables of the function that is run were before it. -/
  shadowed : List (Octets × Option Variable) := []
  /-- The exit code of the last command whose output was taken, since the command was started. -/
  substituted : Option Nat := none
  /-- The number of the argument that options are taken from next. -/
  optionIndex : Nat := 1
  /-- The place in the argument before that one, if there are more options in it. -/
  optionPlace : Nat := 0
  /-- The open files that descriptors stand for. -/
  descriptors : List (Nat × Nat)
  /-- The number by which the script knows itself. -/
  number : Nat
  /-- The number of the process, which is another one in a copy of it. -/
  identity : Nat
  /-- The numbers of the processes above it. -/
  above : List Nat := []
  /-- The permissions that new files do not get. -/
  mask : Nat := 18
  /-- The number of the command that was started last and not waited for. -/
  lastJob : Option Nat := none

/-- A command that is not waited for. -/
structure Job where
  number : Nat
  /-- The process that started it. -/
  owner : Nat
  /-- What it is to do, if it has not been done yet. -/
  work : Option (Command × Process)
  /-- How it ended. -/
  ending : Ending := .exited 0

/-- What belongs to all processes. -/
structure World where
  disk : Disk
  files : List OpenFile
  buffers : List Octets
  jobs : List Job := []
  /-- The signals that have been sent and not yet arrived, with the processes that they go to. -/
  signals : List (Nat × Nat) := []
  /-- The number of the next process. -/
  nextNumber : Nat

/-- The state of a running script. -/
structure State extends Process, World

namespace State

/-- The number of the first process. -/
def firstNumber : Nat := 4242

/-- The variables that every shell sets when it starts. -/
def preset (directory : Octets) (parent : Nat) : List (Octets × Variable) :=
  [(Octets.ofString "PWD", ⟨some directory, true, false⟩),
    (Octets.ofString "OPTIND", ⟨some ['1'], false, false⟩),
    (Octets.ofString "PS1", ⟨some ['$', ' '], false, false⟩),
    (Octets.ofString "PS2", ⟨some ['>', ' '], false, false⟩),
    (Octets.ofString "PS4", ⟨some ['+', ' '], false, false⟩),
    (Octets.ofString "PPID", ⟨some (Nat.toDigits 10 parent), false, false⟩),
    (Octets.ofString "IFS", ⟨some [' ', '\t', '\n'], false, false⟩)]

/-- The path of a location. -/
def pathOf (l : Location) : Octets := Octets.ofString l.path.text

/-- A script that starts on a disk. -/
def start (d : Disk) (name : Octets) (arguments : List Octets) : State where
  name := name
  arguments := arguments
  current := d.current
  directory := pathOf d.current
  bindings := (Octets.ofString "PATH", ⟨some (Octets.ofString "/usr/bin:/bin"), true, false⟩) ::
    preset (pathOf d.current) (firstNumber - 1)
  descriptors := [(0, 0), (1, 1), (2, 2)]
  number := firstNumber
  identity := firstNumber
  disk := d
  files := [{ target := .void }, { target := .buffer 0 }, { target := .buffer 1 }]
  buffers := [[], []]
  nextNumber := firstNumber + 1

/-- The disk as the process sees it. -/
def view (s : State) : Disk := { s.disk with current := s.current }

/-- What was written to a buffer. -/
def written (s : State) (index : Nat) : Octets := s.buffers.getD index []

/-! ## Descriptors -/

/-- The open file that a descriptor stands for, and its place in the list. -/
def file? (s : State) (descriptor : Nat) : Option (Nat × OpenFile) := do
  let index ← s.descriptors.lookup descriptor
  let f ← s.files[index]?
  return (index, f)

/-- Let a descriptor stand for an open file. -/
def attach (s : State) (descriptor index : Nat) : State :=
  { s with descriptors := (descriptor, index) :: s.descriptors.filter fun d => d.1 ≠ descriptor }

/-- Let a descriptor stand for nothing. -/
def detach (s : State) (descriptor : Nat) : State :=
  { s with descriptors := s.descriptors.filter fun d => d.1 ≠ descriptor }

/-- Open a file for a descriptor. -/
def openFile (s : State) (descriptor : Nat) (f : OpenFile) : State :=
  { s with files := s.files ++ [f] }.attach descriptor s.files.length

/-- A content after a text has been written at a place. -/
def overwrite (content : Octets) (position : Nat) (text : Octets) : Octets :=
  content.take position ++ List.replicate (position - content.length) '\x00' ++ text ++
    content.drop (position + text.length)

/-- Write to a descriptor; false if that is not possible. -/
def write (s : State) (descriptor : Nat) (text : Octets) : Bool × State :=
  match s.file? descriptor with
  | none => (false, s)
  | some (index, f) =>
    if !f.writable then (false, s)
    else
      match f.target with
      | .void => (true, s)
      | .supply _ => (false, s)
      | .buffer b => (true, { s with buffers := s.buffers.modify b (· ++ text) })
      | .file place =>
        match s.disk.node? place with
        | some (.file content executable) =>
          let position := if f.appends then content.length else f.position
          let content := overwrite content position text
          (true, { s with
            disk := s.disk.put place (.file content executable)
            files := s.files.set index { f with position := position + text.length } })
        | _ => (true, s)

/-- What is left to be read from a descriptor; none if it cannot be read from. -/
def remaining? (s : State) (descriptor : Nat) : Option Octets := do
  let (_, f) ← s.file? descriptor
  if !f.readable then none
  else
    match f.target with
    | .void => some []
    | .supply text => some (text.drop f.position)
    | .buffer _ => some []
    | .file place =>
      match s.disk.node? place with
      | some (.file content _) => some (content.drop f.position)
      | _ => some []

/-- Whether a descriptor leads to a directory, which is opened but not read. -/
def readsDirectory (s : State) (descriptor : Nat) : Bool :=
  match s.file? descriptor with
  | some (_, { target := .file place, .. }) => s.disk.node? place = some .directory
  | _ => false

/-- The state after so many bytes have been read from a descriptor. -/
def advance (s : State) (descriptor count : Nat) : State :=
  match s.file? descriptor with
  | none => s
  | some (index, f) =>
    { s with files := s.files.set index { f with position := f.position + count } }

/-- Write output. -/
def print (s : State) (text : Octets) : State := (s.write 1 text).2

/-- Write a line of output. -/
def printLine (s : State) (text : Octets) : State := s.print (text ++ ['\n'])

/-- Write an error. -/
def complain (s : State) (text : String) : State :=
  (s.write 2 (Octets.ofString text ++ ['\n'])).2

/-- Write an error that names a line of the script, and the utility that met it. -/
def blameLine (s : State) (line : Nat) (text : String) : State :=
  let utility := (s.utility.map fun u => Octets.decode u ++ ": ").getD ""
  s.complain (Octets.decode s.name ++ ": " ++ toString line ++ ": " ++ utility ++ text)

/-- Write an error that names the place in the script. -/
def blame (s : State) (text : String) : State := s.blameLine s.line text

/-- Write an error in a word, after which the script has to end. -/
def condemn (s : State) (text : String) : State :=
  if s.doomed then s else { s.blame text with doomed := true }

/-- End with an error. -/
def refuse (s : State) (text : String) : Flow × State := (.broken 2, s.blame text)

/-- Set the exit code of the last command. -/
def code (s : State) (n : Nat) : State := { s with status := n }

/-! ## Variables -/

/-- Whether an option is on. -/
def has (s : State) (option : Char) : Bool := s.options.contains option

/-- The letters of the options; the last one is shown first. -/
def optionLetters : List Char :=
  ['e', 'f', 'I', 'i', 'm', 'n', 's', 'x', 'v', 'V', 'E', 'C', 'a', 'b', 'u']

/-- The value of a variable. -/
def valueOf? (s : State) (name : Octets) : Option Octets := do (← s.bindings.lookup name).value

/-- The value of a variable or a special parameter, if it has one. -/
def value? (s : State) (name : Octets) : Option Octets :=
  match name with
  | ['?'] => some (Nat.toDigits 10 s.status)
  | ['#'] => some (Nat.toDigits 10 s.arguments.length)
  | ['$'] => some (Nat.toDigits 10 s.number)
  | ['!'] => s.lastJob.map (Nat.toDigits 10)
  | ['-'] => some (optionLetters.filter s.has).reverse
  | name =>
    if name.all Char.isDigit then
      match Numeral.ofDigits 10 name with
      | 0 => some s.name
      | n + 1 => s.arguments[n]?
    else s.valueOf? name

/-- Whether a variable keeps its value for good. -/
def isFixed (s : State) (name : Octets) : Bool :=
  match s.bindings.lookup name with
  | some v => v.fixed
  | none => false

/-- Put a variable in place of the one with the same name. -/
def bind (s : State) (name : Octets) (v : Variable) : State :=
  { s with bindings := (name, v) :: s.bindings.filter fun b => b.1 ≠ name }

/-- Set a variable, whatever it was. -/
def set (s : State) (name value : Octets) : State :=
  let v := (s.bindings.lookup name).getD ⟨none, false, false⟩
  let s := s.bind name { v with value := some value, exported := v.exported || s.has 'a' }
  if name = Octets.ofString "OPTIND" then
    { s with
      optionIndex := max 1 (Numeral.ofDigits 10 (value.takeWhile Char.isDigit))
      optionPlace := 0 }
  else s

/-- Set a variable, which may not be possible. -/
def set? (s : State) (name value : Octets) : Except String State :=
  if !isName name then .error (Octets.decode name ++ ": bad variable name")
  else if s.isFixed name then .error (Octets.decode name ++ ": is read only")
  else .ok (s.set name value)

/-- Set a variable that programs get to see. -/
def setExported (s : State) (name value : Octets) : State :=
  let s := s.set name value
  match s.bindings.lookup name with
  | some v => s.bind name { v with exported := true }
  | none => s

/-- Forget a variable. -/
def unset (s : State) (name : Octets) : State :=
  { s with bindings := s.bindings.filter fun v => v.1 ≠ name }

/-- Remember what a variable is; a dash stands for the options. -/
def remember (s : State) (name : Octets) : Octets × Option Variable :=
  if name = ['-'] then (name, some ⟨some s.options, false, false⟩)
  else (name, s.bindings.lookup name)

/-- Make a variable one of the function that is run. -/
def shadow (s : State) (name : Octets) : State :=
  { s with shadowed := s.remember name :: s.shadowed }

/-- The variables as they were when they were remembered, the last one first. -/
def restore (s : State) (remembered : List (Octets × Option Variable)) : State :=
  remembered.foldl (fun s v =>
    match v.2 with
    | some old =>
      if v.1 = ['-'] then { s with options := old.value.getD [] } else s.bind v.1 old
    | none => s.unset v.1) s

/-- The descriptors of the given numbers as they were before. -/
def restoreDescriptors (s : State) (numbers : List Nat) (before : State) : State :=
  numbers.foldl (fun s n =>
    match before.descriptors.lookup n with
    | some index => s.attach n index
    | none => s.detach n) s

/-- The characters that divide fields. -/
def separators (s : State) : Octets :=
  (s.valueOf? (Octets.ofString "IFS")).getD [' ', '\t', '\n']

/-- What stands between arguments that are put together. -/
def joint (s : State) : Octets :=
  match s.valueOf? (Octets.ofString "IFS") with
  | none => [' ']
  | some separators => separators.take 1

/-- A path of the script. -/
def path (text : Octets) : Path := ⟨Octets.decode text⟩

/-! ## Processes -/

/-- The state inside a command whose output is caught, and the buffer that catches it. -/
def catchOutput (s : State) : State × Nat :=
  let index := s.buffers.length
  ({ s with buffers := s.buffers ++ [[]] }.openFile 1 { target := .buffer index }, index)

/-- The state in a copy of the process.  Only signals that are ignored are still dealt with. -/
def copied (s : State) : State :=
  { s with
    traps := s.traps.filter fun t => t.1 ≠ 0 && t.2.isEmpty
    identity := s.nextNumber
    above := s.identity :: s.above
    nextNumber := s.nextNumber + 1 }

/-- The state of a process after another one has run: what belongs to all is as that one left it. -/
def rejoin (before after : State) : State :=
  { toProcess := before.toProcess, toWorld := after.toWorld }

/-- The variables that programs get to see. -/
def environment (s : State) : List (Octets × Variable) :=
  s.bindings.filter fun b => b.2.exported && b.2.value.isSome

/-- The state in which another program starts: it knows of the variables that programs get to see.
If it replaces the one that runs, it is the same process. -/
def forProgram (s : State) (replaces : Bool) : State :=
  let d := s.copied
  let d := if replaces then { d with identity := s.identity, above := s.above } else d
  { d with
    bindings := (s.environment.map fun b => (b.1, { b.2 with fixed := false }))
    functions := []
    aliases := []
    texts := []
    options := []
    beforeTrap := none
    tested := false
    utility := none
    loops := 0
    calls := 0
    shadowed := []
    optionIndex := 1
    optionPlace := 0
    number := d.identity
    lastJob := none }

/-- The state in which a shell starts as a program. -/
def forShell (s : State) : State :=
  let own := preset s.directory (s.above.headD (firstNumber - 1))
  { s with bindings := own ++ s.bindings.filter fun b => (own.lookup b.1).isNone }

end State

end LintBridge.Shell
