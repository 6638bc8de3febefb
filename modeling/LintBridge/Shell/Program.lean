/-
# Small programs

The programs that every system has and that scripts use.

* `Shell.programs`: what they do, by their names.
* `Shell.programAt?`: the program that stands at a location.
-/
import LintBridge.Shell.Redirection
import LintBridge.Shell.Utility

namespace LintBridge.Shell

/-! ## Options -/

/-- Whether an argument has the form of an option with a long name. -/
def isLongOption : Octets → Bool
  | '-' :: '-' :: _ :: _ => true
  | _ => false

/-- Write an error of a program and where to find help. -/
def seekHelp (name reason : String) (s : State) : Flow × State :=
  ending 1 (s.complain (name ++ ": " ++ reason ++ "\nTry '" ++ name ++
    " --help' for more information."))

/-- A program with options of one letter: it is given the letters and its operands. -/
def program (name letters : String) (body : List Char → Utility) : Utility := fun as s =>
  let isOption (a : Octets) : Bool := a.head? = some '-' && 1 < a.length
  let before := as.takeWhile (· ≠ ['-', '-'])
  let behind := (as.drop before.length).drop 1
  let given := (before.filter isOption).flatMap List.tail
  match before.find? isLongOption, given.find? (!letters.toList.contains ·) with
  | some a, _ => seekHelp name ("unrecognized option '" ++ Octets.decode a ++ "'") s
  | none, some c => seekHelp name ("invalid option -- '" ++ String.singleton c ++ "'") s
  | none, none => body given (before.filter (!isOption ·) ++ behind) s

/-- A program that fails without operands. -/
def withOperands (name : String) (body : Utility) : Utility := fun as s =>
  if as.isEmpty then seekHelp name "missing operand" s else body as s

/-! ## Texts -/

/-- The content of a file. -/
def State.content (s : State) (path : Octets) : Except DiskError Octets :=
  match systemFile? path with
  | some none => .ok []
  | some (some n) =>
    match s.remaining? n with
    | some text => .ok text
    | none => .error .notFound
  | none => s.view.read (State.path path)

/-- Print files one after the other, or what is left to be read. -/
def cat : Utility := fun as s =>
  let files := if as.isEmpty then [['-']] else as
  let (flow, s) := files.foldl (fun (flow, s) f =>
    if f = ['-'] then
      match s.remaining? 0 with
      | some text =>
        if s.readsDirectory 0 then (flow, (s.complain "cat: -: Is a directory").code 1)
        else (flow, (s.print text).advance 0 text.length)
      | none => (flow, (s.complain "cat: -: Bad file descriptor").code 1)
    else
      match s.content f with
      | .ok content => (flow, s.print content)
      | .error e =>
        (flow, (s.complain ("cat: " ++ Octets.decode f ++ ": " ++ e.reason)).code 1))
    (ending 0 s)
  match s.file? 0 with
  | some _ => (flow, s)
  | none => ending 1 (s.complain "cat: closing standard input: Bad file descriptor")

/-- Print the arguments with blanks between them; escapes count only if that is asked for. -/
def plainEcho : Utility := fun as s =>
  let isOption (a : Octets) : Bool :=
    a.head? = some '-' && 1 < a.length && a.tail.all fun c => ['n', 'e', 'E'].contains c
  let given := (as.takeWhile isOption).flatMap List.tail
  let text := spaced (as.dropWhile isOption)
  let escapes := (given.filter (· ≠ 'n')).getLast? = some 'e'
  let (text, ended) := if escapes then unescape (text.length + 1) text else (text, false)
  ending 0 (s.print (if given.contains 'n' || ended then text else text ++ ['\n']))

/-! ## Paths -/

/-- A path without separators at its end. -/
def dropSeparators (p : Octets) : Octets := (p.reverse.dropWhile (· = '/')).reverse

/-- The directory part of a path. -/
def directoryPart (p : Octets) : Octets :=
  if p.contains '/' then
    let above := (((dropSeparators p).reverse).dropWhile (· ≠ '/')).reverse
    let above := if (dropSeparators p).contains '/' then dropSeparators above else ['.']
    if above.isEmpty then ['/']
    else if (dropSeparators p).isEmpty then ['/']
    else above
  else ['.']

/-- The last name of a path. -/
def namePart (p : Octets) : Octets :=
  let kept := dropSeparators p
  if kept.isEmpty then (if p.isEmpty then [] else ['/'])
  else (kept.reverse.takeWhile (· ≠ '/')).reverse

/-- A text without the given ending, unless that is all of it. -/
def dropEnding (ending s : Octets) : Octets :=
  if ending.isSuffixOf s && ending.length < s.length then s.take (s.length - ending.length) else s

/-- Print a line for every argument. -/
def printLines (f : Octets → Octets) : Utility := fun as s =>
  ending 0 (as.foldl (fun s a => s.printLine (f a)) s)

/-- Print the last name of a path, without the given ending. -/
def basename : Utility := fun as s =>
  match as with
  | [p] => printLines namePart [p] s
  | [p, suffix] => ending 0 (s.printLine (dropEnding suffix (namePart p)))
  | as => seekHelp "basename" ("extra operand '" ++ Octets.decode (as.getD 2 []) ++ "'") s

/-! ## Files -/

/-- Change the disk for every operand, and complain about those for which that is not possible. -/
def forOperands (change : Disk → Path → Except DiskError Disk) (complaint : String) :
    Utility := fun as s =>
  as.foldl (fun (flow, s) a =>
    match change s.view (State.path a) with
    | .ok d => (flow, { s with disk := { d with current := s.disk.current } })
    | .error e =>
      (flow, (s.complain (complaint ++ " '" ++ Octets.decode a ++ "': " ++ e.reason)).code 1))
    (ending 0 s)

/-- Make files that are missing. -/
def touch : Utility :=
  forOperands (fun d p =>
    match d.stat p with
    | .ok (_, .directory) => .ok d
    | _ => d.write p ((d.read p).toOption.getD [])) "touch: cannot touch"

/-- Remove files, and directories if that is asked for. -/
def removeFiles (letters : List Char) : Utility :=
  let deep := letters.contains 'r' || letters.contains 'R'
  forOperands (fun d p =>
    match d.remove p, d.resolve true p with
    | .error .isDirectory, .ok (.found l) =>
      if deep then .ok (d.eraseAll l) else .error .isDirectory
    | .error .notFound, _ => if letters.contains 'f' then .ok d else .error .notFound
    | r, _ => r) "rm: cannot remove"

/-- Make directories. -/
def makeDirectory (letters : List Char) : Utility :=
  forOperands (fun d p =>
    if letters.contains 'p' then (d.makeDirectories p).map Prod.fst
    else do
      match ← d.resolve true p with
      | .missing l => .ok (d.put l .directory)
      | .found _ => .error .exists) "mkdir: cannot create directory"

/-! ## The list of programs -/

/-- The small programs. -/
def programs : List (String × Utility) := [
  ("cat", program "cat" "u" fun _ => cat),
  ("dirname", program "dirname" "" fun _ => withOperands "dirname" (printLines directoryPart)),
  ("basename", program "basename" "" fun _ => withOperands "basename" basename),
  ("sleep", program "sleep" "" fun _ => withOperands "sleep" fun _ => ending 0),
  ("touch", program "touch" "acm" fun _ => touch),
  ("rm", program "rm" "rRfv" removeFiles),
  ("mkdir", program "mkdir" "p" makeDirectory),
  ("true", fun _ => ending 0),
  ("false", fun _ => ending 1),
  ("echo", plainEcho),
  ("printf", printf),
  ("pwd", fun _ s => ending 0 (s.printLine (State.pathOf s.current))),
  ("test", test),
  ("[", bracketTest)]

/-- The shell under its names. -/
def shellNames : List String := ["sh", "dash", "bash"]

/-- The names of all programs that need no file. -/
def programNames : List String := shellNames ++ ["env"] ++ programs.map Prod.fst

/-- The name of the program at a location, if it is in a directory of the search path. -/
def programAt? : Location → Option String
  | [name, "bin"] => if programNames.contains name then some name else none
  | [name, "bin", "usr"] => if programNames.contains name then some name else none
  | _ => none

/-! ## Files that are programs -/

/-- The interpreter of a script and the argument it is given, from the text behind the mark. -/
def interpreter (s : Octets) : Octets × Option Octets :=
  let isBlank (c : Char) : Bool := c = ' ' || c = '\t'
  let strip (t : Octets) : Octets := ((t.dropWhile isBlank).reverse.dropWhile isBlank).reverse
  let line := strip (s.takeWhile (· ≠ '\n'))
  let argument := strip (line.dropWhile (!isBlank ·))
  (line.takeWhile (!isBlank ·), if argument.isEmpty then none else some argument)

/-- The program without a file that runs a path, with its arguments: for a script its interpreter,
for the interpreter perhaps another one. -/
def load (d : Disk) : Nat → Path → List Octets → Except DiskError (String × List Octets)
  | 0, _, _ => .error .tooManyLinks
  | fuel + 1, p, as => do
    match ← d.stat p with
    | (l, .file content true) =>
      match programAt? l, content with
      | some name, _ => .ok (name, as)
      | none, '#' :: '!' :: rest =>
        let (program, argument) := interpreter rest
        if program.isEmpty then .error .notExecutable
        else load d fuel (State.path program) (argument.toList ++ Octets.ofString p.text :: as)
      | none, _ => .error .notExecutable
    | _ => .error .accessDenied

/-- The greatest number of interpreters of interpreters. -/
def maxInterpreters : Nat := 5

/-- The path of a name in the directories of the search path, or why there is none. -/
def searchIn (d : Disk) (name : Octets) (reason : DiskError) :
    List Octets → Except DiskError Octets
  | [] => .error reason
  | dir :: rest =>
    let path := if dir.isEmpty then name else dir ++ '/' :: name
    match d.stat (State.path path) with
    | .ok (_, .file _ true) => .ok path
    | .ok _ => searchIn d name .accessDenied rest
    | .error .notFound => searchIn d name reason rest
    | .error .notDirectory => searchIn d name reason rest
    | .error e => searchIn d name e rest

/-- The path of the program with a name. -/
def State.search (s : State) (name : Octets) : Except DiskError Octets :=
  if name.contains '/' then .ok name
  else
    match s.valueOf? (Octets.ofString "PATH") with
    | some dirs => searchIn s.view name .notFound (Text.split ':' dirs)
    | none => .error .notFound

/-! ## What names stand for -/

/-- What the name of a command stands for. -/
inductive Meaning where
  | keyword
  | aliased (text : Octets)
  | function
  | utility (special : Bool)
  | file (path : Octets)
deriving DecidableEq, Repr

/-- What a name stands for, if anything. -/
def State.meaning? (s : State) (name : Octets) : Option Meaning :=
  let word := Octets.decode name
  if keywords.contains word then some .keyword
  else
    match s.aliases.lookup name with
    | some text => some (.aliased text)
    | none =>
      if specialUtilities.contains word then some (.utility true)
      else if (s.functions.lookup name).isSome then some .function
      else if isUtility word then some (.utility false)
      else if name.contains '/' then
        if (s.view.stat (State.path name)).toOption.isSome then some (.file name) else none
      else (s.search name).toOption.map Meaning.file

/-- What is told of a name at length. -/
def Meaning.describe (name : Octets) : Meaning → Octets
  | keyword => name ++ Octets.ofString " is a shell keyword"
  | aliased text => name ++ Octets.ofString " is an alias for " ++ text
  | function => name ++ Octets.ofString " is a shell function"
  | utility true => name ++ Octets.ofString " is a special shell builtin"
  | utility false => name ++ Octets.ofString " is a shell builtin"
  | file path => name ++ Octets.ofString " is " ++ path

/-- What is told of a name in short. -/
def Meaning.shown (name : Octets) : Meaning → Octets
  | aliased text => Octets.ofString "alias " ++ name ++ '=' :: inQuotes text
  | file path => path
  | _ => name

/-- Tell of names, at length or in short. -/
def tellOf (long : Bool) (names : List Octets) (s : State) : Flow × State :=
  names.foldl (fun (flow, s) name =>
    match s.meaning? name with
    | some m => (flow, s.printLine (if long then m.describe name else m.shown name))
    | none =>
      (flow, (if long then s.printLine (name ++ Octets.ofString ": not found") else s).code 127))
    (ending 0 s)

/-- Look for programs, and complain about those that are missing. -/
def lookUp : Utility := withOptions [('r', false), ('v', false)] fun _ as s =>
  as.foldl (fun (flow, s) name =>
    match s.meaning? name with
    | some _ => (flow, s)
    | none => (flow, (s.blame (Octets.decode name ++ ": not found")).code 1)) (ending 0 s)

end LintBridge.Shell
