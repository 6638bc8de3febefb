/-
# Utilities of the shell

The commands that the shell runs itself and that run no other commands.

* `Shell.builtins`: what they do, by their names.
* `Shell.isSpecial`: which of them end a script when they are used wrongly.
-/
import LintBridge.Shell.Condition
import LintBridge.Shell.Fields
import LintBridge.Shell.Format
import LintBridge.Shell.Option
import LintBridge.Shell.Signal

namespace LintBridge.Shell

/-- What a utility does with its arguments. -/
abbrev Utility := List Octets → State → Flow × State

/-- A utility that ends with an exit code. -/
def ending (n : Nat) (s : State) : Flow × State := (.next, s.code n)

/-- The arguments with blanks between them. -/
def spaced (as : List Octets) : Octets := [' '].intercalate as

/-- A text between quotation marks, so that the shell reads it as one word. -/
def inQuotes (s : Octets) : Octets :=
  let (before, rest) := (s.takeWhile (· ≠ '\x27'), s.dropWhile (· ≠ '\x27'))
  '\x27' :: before ++ '\x27' :: quotesIn rest.length rest
where
  /-- The quotation marks at the front between double ones, and what follows them. -/
  quotesIn : Nat → Octets → Octets
    | 0, _ => []
    | fuel + 1, s =>
      let marks := s.takeWhile (· = '\x27')
      let rest := s.dropWhile (· = '\x27')
      if marks.isEmpty then []
      else
        let shown := '"' :: marks ++ ['"']
        if rest.isEmpty then shown
        else
          shown ++ '\x27' :: rest.takeWhile (· ≠ '\x27') ++
            '\x27' :: quotesIn fuel (rest.dropWhile (· ≠ '\x27'))

/-- A utility that takes options. -/
def withOptions (known : List (Char × Bool))
    (body : List Given → List Octets → State → Flow × State) : Utility := fun as s =>
  match optionsOf known as with
  | .ok (given, rest) => body given rest s
  | .error e => s.refuse e

/-- A utility that takes no options. -/
def plainUtility (body : Utility) : Utility := withOptions [] fun _ => body

/-- The number that a text is, which is not negative. -/
def count? (a : Octets) : Option Nat :=
  match Numeral.whole? false a with
  | some n => if 0 ≤ n && n ≤ 2147483647 then some n.toNat else none
  | none => none

/-- An end because of a text that is no number. -/
def notNumber (a : Octets) (s : State) : Flow × State :=
  s.refuse ("Illegal number: " ++ Octets.decode a)

/-! ## Output -/

/-- Print output, which may not be possible. -/
def printed (n : Nat) (text : Octets) (s : State) : Flow × State :=
  match text.isEmpty, s.write 1 text with
  | false, (false, s) =>
    let name := (s.utility.map Octets.decode).getD ""
    ending 1 (s.blame (name ++ ": I/O error"))
  | _, (_, s) => ending n s

/-- Print the arguments with their escapes resolved. -/
def echo : Utility := fun as s =>
  let (silent, as) :=
    match as with
    | ['-', 'n'] :: rest => (true, rest)
    | as => (false, as)
  let text := spaced as
  let (text, ended) := unescape (text.length + 1) text
  printed 0 (if silent || ended then text else text ++ ['\n']) s

/-- Print a format with its arguments filled in. -/
def printf : Utility := plainUtility fun as s =>
  match as with
  | [] => s.refuse "usage: printf format [arg ...]"
  | f :: as =>
    let (finish, filled) := format f as
    let s := filled.complaints.foldl State.blame s
    match finish with
    | .refused reason =>
      let s := s.blame reason
      (.broken 2, s.print filled.out)
    | _ => printed (if filled.complaints.isEmpty then 0 else 1) filled.out s

/-! ## Flow -/

/-- A command of flow, which is given a number; without one it takes the default. -/
def withNumber (least : Nat) (default : State → Nat) (body : Nat → State → Flow × State) :
    Utility := fun as s =>
  match as with
  | [] => body (default s) s
  | a :: _ =>
    match count? a with
    | some n => if n < least then notNumber a s else body n s
    | none => notNumber a s

/-- End the script. -/
def exit : Utility :=
  withNumber 0 (fun s => s.beforeTrap.getD s.status) fun n s => (.leave n, s.code n)

/-- End a function or a file. -/
def finish : Utility := withNumber 0 (fun s => s.status) fun n s => (.finish, s.code n)

/-- Drop arguments of the script. -/
def shift : Utility := withNumber 0 (fun _ => 1) fun n s =>
  if s.arguments.length < n then s.refuse "can't shift that many"
  else
    ending 0 { s with arguments := s.arguments.drop n, optionIndex := 1, optionPlace := 0 }

/-- Leave loops, as far as there are any. -/
def leaveLoops (again : Bool) : Utility := withNumber 1 (fun _ => 1) fun n s =>
  let n := min n s.loops
  (if n = 0 then .next else if again then .nextRound n else .leaveLoops n, s.code 0)

/-! ## Variables -/

/-- Variables in the order of their names, those that are wanted. -/
def State.sortedVariables (s : State) (wanted : Variable → Bool) : List (Octets × Variable) :=
  (s.bindings.filter fun b => wanted b.2).mergeSort fun a b => !Octets.precedes b.1 a.1

/-- Print variables in the form of commands. -/
def State.printVariables (s : State) (command : String) (wanted : Variable → Bool) : State :=
  (s.sortedVariables wanted).foldl (fun s b =>
    let value := (b.2.value.map fun v => '=' :: inQuotes v).getD []
    s.printLine (Octets.ofString command ++ b.1 ++ value)) s

/-- The name in an assignment. -/
def nameIn (a : Octets) : Octets := a.takeWhile (· ≠ '=')

/-- The value in an assignment. -/
def valueIn? (a : Octets) : Option Octets :=
  match a.dropWhile (· ≠ '=') with
  | _ :: value => some value
  | [] => none

/-- Set a variable that is given as an assignment, or make one without a value. -/
def State.assignment (s : State) (a : Octets) : Except String State :=
  match valueIn? a with
  | some value => s.set? (nameIn a) value
  | none =>
    if !isName a then .error (Octets.decode a ++ ": bad variable name")
    else if (s.bindings.lookup a).isSome then .ok s
    else .ok (s.bind a ⟨none, false, false⟩)

/-- Go on with every argument as long as that is possible. -/
def forEach (step : Octets → State → Except String State) : Utility := fun as s =>
  match as.foldl (fun r a => r.bind fun s => (step a s).mapError (·, s))
    (Except.ok s : Except (String × State) State) with
  | .ok s => ending 0 s
  | .error (e, s) => s.refuse e

/-- Change what variables are, after they have been set, or print those that are like that. -/
def markVariables (name : String) (mark : Variable → Variable) (marked : Variable → Bool) :
    Utility :=
  withOptions [('p', false)] fun given as s =>
    if !given.isEmpty || as.isEmpty then ending 0 (s.printVariables (name ++ " ") marked)
    else
      forEach (fun a s => do
        let s ← s.assignment a
        match s.bindings.lookup (nameIn a) with
        | some v => return s.bind (nameIn a) (mark v)
        | none => return s) as s

/-- Set variables of the function that is run. -/
def localVariables : Utility := plainUtility fun as s =>
  if s.calls = 0 then s.refuse "not in a function"
  else
    forEach (fun a s =>
      let s := s.shadow (nameIn a)
      if a = ['-'] then .ok s else s.assignment a) as s

/-- Forget variables or functions. -/
def unset : Utility := withOptions [('v', false), ('f', false)] fun given as s =>
  if given.getLast?.map Prod.fst = some 'f' then
    ending 0 { s with functions := s.functions.filter fun f => !as.contains f.1 }
  else
    forEach (fun a s =>
      if !isName a then .error (Octets.decode a ++ ": bad variable name")
      else if s.isFixed a then .error (Octets.decode a ++ ": is read only")
      else .ok (s.unset a)) as s

/-- Set or forget options, or set the arguments. -/
def setOptions : Utility := fun as s =>
  if as.isEmpty then ending 0 (s.printVariables "" fun v => v.value.isSome)
  else
    match s.asked false as with
    | .error e => s.refuse e
    | .ok asked =>
      let s := asked.state
      if asked.ended || !asked.rest.isEmpty then
        ending 0 { s with arguments := asked.rest, optionIndex := 1, optionPlace := 0 }
      else ending 0 s

/-! ## Aliases -/

/-- Set aliases, or print them. -/
def setAliases : Utility := fun as s =>
  let line (a : Octets × Octets) : Octets := a.1 ++ '=' :: inQuotes a.2
  if as.isEmpty then
    let sorted := s.aliases.mergeSort fun a b => !Octets.precedes b.1 a.1
    ending 0 (sorted.foldl (fun s a => s.printLine (line a)) s)
  else
    as.foldl (fun (flow, s) a =>
      match valueIn? (a.drop 1) with
      | some value =>
        let name := a.take 1 ++ nameIn (a.drop 1)
        (flow, { s with aliases := (name, value) :: s.aliases.filter fun b => b.1 ≠ name })
      | none =>
        match s.aliases.lookup a with
        | some value => (flow, s.printLine (line (a, value)))
        | none => (flow, (s.complain ("alias: " ++ Octets.decode a ++ " not found")).code 1))
      (ending 0 s)

/-- Forget aliases. -/
def unsetAliases : Utility := withOptions [('a', false)] fun given as s =>
  if !given.isEmpty then ending 0 { s with aliases := [] }
  else
    as.foldl (fun (flow, s) a =>
      if (s.aliases.lookup a).isSome then
        (flow, { s with aliases := s.aliases.filter fun b => b.1 ≠ a })
      else (flow, (s.complain ("unalias: " ++ Octets.decode a ++ " not found")).code 1))
      (ending 0 s)

/-! ## Input -/

/-- The glyphs of a line, how many bytes it takes, and whether it has an end.  A backslash takes its
meaning from the next character, unless `raw` is true. -/
def lineGlyphs (raw : Bool) : Octets → List Glyph × Nat × Bool
  | [] => ([], 0, false)
  | '\n' :: _ => ([], 1, true)
  | '\\' :: rest =>
    if raw then
      let (gs, n, ended) := lineGlyphs raw rest
      (.loose '\\' :: gs, n + 1, ended)
    else
      match rest with
      | [] => ([], 1, false)
      | c :: rest =>
        let (gs, n, ended) := lineGlyphs raw rest
        let here : List Glyph := if c = '\n' || c = '\x00' then [] else [.char c true]
        (here ++ .opening false :: gs, n + 2, ended)
  | c :: rest =>
    let (gs, n, ended) := lineGlyphs raw rest
    (if c = '\x00' then gs else .loose c :: gs, n + 1, ended)

/-- Set variables to fields, those that are left to nothing. -/
def setFields : List Octets → List Octets → State → Except String State
  | [], _, s => .ok s
  | name :: names, fields, s => do
    setFields names fields.tail (← s.set? name (fields.headD []))

/-- Read a line into variables, the last of which takes what is left of it. -/
def readLine : Utility := withOptions [('p', true), ('r', false)] fun given names s =>
  if names.isEmpty then s.refuse "arg count"
  else
    let raw := given.any fun g => g.1 = 'r'
    let (gs, length, ended) := lineGlyphs raw ((s.remaining? 0).getD [])
    let fields := (cutFields s.separators (some names.length) (.opening false :: gs)).map textOf
    let s := s.advance 0 length
    match setFields names fields s with
    | .ok s => ending (if ended then 0 else 1) s
    | .error e => s.refuse e

/-- The option that is taken next from the arguments `as` by the letters of `known`, and where the
next one is to be found. -/
structure NextOption where
  /-- The letter; none at the end of the options. -/
  letter : Option Char
  /-- The argument that options are taken from next, and the place in the one before it. -/
  index : Nat
  place : Nat
  /-- The argument of the option. -/
  value : Option Octets := none
  /-- What is wrong with it. -/
  complaint : Option String := none

/-- The next option. -/
def nextOption (known : Octets) (as : List Octets) (index place : Nat) : NextOption :=
  let quiet := known.head? = some ':'
  let known := if quiet then known.drop 1 else known
  let before := (as.getD (index - 2) []).drop place
  let inside := 1 < index && 0 < place && !before.isEmpty
  let atEnd (index : Nat) : NextOption := ⟨none, index, 0, none, none⟩
  let start : Option (Octets × Nat) :=
    if inside then some (before, index)
    else
      match as[index - 1]? with
      | some ('-' :: letters) => if letters.isEmpty then none else some (letters, index + 1)
      | _ => none
  match start with
  | none => atEnd index
  | some (['-'], next) => if inside then take quiet known ['-'] next as else atEnd next
  | some (letters, next) => take quiet known letters next as
where
  /-- Take the first of the letters; `next` is the number of the argument behind them. -/
  take (quiet : Bool) (known letters : Octets) (next : Nat) (as : List Octets) : NextOption :=
    match letters with
    | [] => ⟨none, next, 0, none, none⟩
    | c :: rest =>
      let place := if rest.isEmpty then 0 else (as.getD (next - 2) []).length - rest.length
      match known.dropWhile (· ≠ c) with
      | [] =>
        if quiet then ⟨some '?', next, place, some [c], none⟩
        else ⟨some '?', next, place, none, some ("Illegal option -" ++ String.singleton c)⟩
      | _ :: ':' :: _ =>
        if !rest.isEmpty then ⟨some c, next, 0, some rest, none⟩
        else
          match as[next - 1]? with
          | some a => ⟨some c, next + 1, 0, some a, none⟩
          | none =>
            if quiet then ⟨some ':', next, 0, some [c], none⟩
            else
              ⟨some '?', next, 0, none, some ("No arg for -" ++ String.singleton c ++ " option")⟩
      | _ => ⟨some c, next, place, some [], none⟩

/-- Take an option from the arguments. -/
def takeOption : Utility := plainUtility fun as s =>
  match as with
  | known :: name :: rest =>
    let source := if rest.isEmpty then s.arguments else rest
    let (index, place) :=
      if source.length + 1 < s.optionIndex then (1, 0) else (s.optionIndex, s.optionPlace)
    let o := nextOption known source index place
    let s := (o.complaint.map s.complain).getD s
    let s :=
      match o.letter, o.value with
      | none, _ => s
      | some _, some v => s.set (Octets.ofString "OPTARG") v
      | some _, none => s.unset (Octets.ofString "OPTARG")
    let s := s.set (Octets.ofString "OPTIND") (Nat.toDigits 10 o.index)
    let s := { s with optionIndex := o.index, optionPlace := o.place }
    match s.set? name [o.letter.getD '?'] with
    | .ok s => ending (if o.letter.isSome then 0 else 1) s
    | .error e => s.refuse e
  | _ => s.refuse "Usage: getopts optstring var [arg...]"

/-! ## Directories -/

/-- The names of a path that leads on from the given ones, from which `..` takes the last one. -/
def follow (names : List Octets) (path : Octets) : List Octets :=
  (Text.split '/' path).foldl (fun names n =>
    match n with
    | [] => names
    | ['.'] => names
    | ['.', '.'] => names.drop 1
    | n => n :: names) names

/-- What an absolute path starts with: two separators stay two, more of them do not. -/
def rootIn : Octets → Octets
  | '/' :: '/' :: rest => if rest.head? = some '/' then ['/'] else ['/', '/']
  | _ => ['/']

/-- The absolute path that a path leads to, without a look at the disk. -/
def State.logical (s : State) (path : Octets) : Octets :=
  let isAbsolute := path.head? = some '/'
  let names := if isAbsolute then follow [] path else follow (follow [] s.directory) path
  rootIn (if isAbsolute then path else s.directory) ++ ['/'].intercalate names.reverse

/-- Enter a directory; without `physical` the path that was taken is kept. -/
def State.enter? (s : State) (physical : Bool) (path : Octets) : Option State :=
  let path := if physical then path else s.logical path
  match s.view.stat (State.path path) with
  | .ok (l, .directory) =>
    let here := if physical then State.pathOf l else path
    let moved := { s with current := l, directory := here }
    some ((moved.setExported (Octets.ofString "OLDPWD") s.directory).setExported
      (Octets.ofString "PWD") here)
  | _ => none

/-- Whether a path starts with a dot that stands for a directory. -/
def startsWithDots (path : Octets) : Bool :=
  let first := path.takeWhile (· ≠ '/')
  first = ['.'] || first = ['.', '.']

/-- The directories in which a path is looked for. -/
def State.directoriesFor (s : State) (path : Octets) : List Octets :=
  if path.head? = some '/' || startsWithDots path then []
  else
    match s.valueOf? (Octets.ofString "CDPATH") with
    | some dirs => Text.split ':' dirs
    | none => []

/-- Change the current directory. -/
def changeDirectory : Utility := withOptions [('L', false), ('P', false)] fun given as s =>
  let physical := given.getLast?.map Prod.fst = some 'P'
  let named (name : String) : Octets := (s.valueOf? (Octets.ofString name)).getD []
  let (target, shown) :=
    match as with
    | [] => (named "HOME", false)
    | ['-'] :: _ => (named "OLDPWD", true)
    | a :: _ => (a, false)
  let target := if target.isEmpty then ['.'] else target
  let isDirectory (path : Octets) : Bool :=
    match s.view.stat (State.path path) with
    | .ok (_, .directory) => true
    | _ => false
  let inside (dir : Octets) : Octets := if dir.isEmpty then target else dir ++ '/' :: target
  let found := (s.directoriesFor target).find? fun dir => isDirectory (inside dir)
  match s.enter? physical ((found.map inside).getD target) with
  | some after =>
    let shown := shown || (found.map (!·.isEmpty)).getD false
    ending 0 (if shown then after.printLine after.directory else after)
  | none => s.refuse ("can't cd to " ++ Octets.decode target)

/-- Print the current directory. -/
def printDirectory : Utility := withOptions [('L', false), ('P', false)] fun given _ s =>
  let physical := given.getLast?.map Prod.fst = some 'P'
  printed 0 ((if physical then State.pathOf s.current else s.directory) ++ ['\n']) s

/-! ## Signals -/

/-- How a signal is called when it is sent. -/
def sendUsage : String :=
  "Usage: kill [-s sigspec | -signum | -sigspec] [pid | job]... or\nkill -l [exitstatus]"

/-- Send a signal to a process; none if there is no such process. -/
def State.send? (s : State) (signal target : Nat) : Option State :=
  let isAlive := target = s.identity || s.above.contains target
  if isAlive then
    some (if signal = 0 then s else { s with signals := s.signals ++ [(target, signal)] })
  else
    match s.jobs.find? fun j => j.number = target && j.work.isSome with
    | none => none
    | some _ =>
      if Signal.isHarmless signal then some s
      else
        some { s with
          jobs := s.jobs.map fun j =>
            if j.number = target then { j with work := none, ending := .killed signal } else j }

/-- Send a signal to processes. -/
def sendAll (signal : Nat) (targets : List Octets) (s : State) : Flow × State :=
  match targets with
  | [] => (.next, s)
  | t :: rest =>
    if t.head? = some '%' then s.refuse ("No such job: " ++ Octets.decode t)
    else
      let isGroup := t.head? = some '-'
      match count? (if isGroup then t.drop 1 else t) with
      | none => notNumber (if isGroup then t.drop 1 else t) s
      | some n =>
        match if isGroup then none else s.send? signal n with
        | some s => sendAll signal rest s
        | none => sendAll signal rest ((s.blame "No such process\n").code 1)

/-- Print the name of a signal, or of all. -/
def printSignals (as : List Octets) (s : State) : Flow × State :=
  match as with
  | [] =>
    ending 0 ((("0" :: Signal.names.drop 1).foldl (fun s n => s.printLine (Octets.ofString n))) s)
  | a :: _ =>
    match count? a with
    | none => notNumber a s
    | some n =>
      let n := if 128 < n then n - 128 else n
      match if n = 0 then none else Signal.names[n]? with
      | some name => ending 0 (s.printLine (Octets.ofString name))
      | none => s.refuse ("invalid signal number or exit status: " ++ Octets.decode a)

/-- Send a signal, or print the names of signals. -/
def send : Utility := fun as s =>
  let direct? : Option Nat :=
    match as with
    | ('-' :: name) :: _ => Signal.number? name
    | _ => none
  match direct? with
  | some n => if as.tail.isEmpty then s.refuse sendUsage else sendAll n as.tail (s.code 0)
  | none =>
    match optionsOf [('l', false), ('s', true)] as with
    | .error e => s.refuse e
    | .ok (given, rest) =>
      if given.any fun g => g.1 = 'l' then printSignals rest s
      else if rest.isEmpty then s.refuse sendUsage
      else
        match given.getLast? with
        | none => sendAll 15 rest (s.code 0)
        | some (_, name) =>
          match Signal.number? name with
          | some n => sendAll n rest (s.code 0)
          | none => s.refuse ("invalid signal number or name: " ++ Octets.decode name)

/-- Plan what is done at signals, or print what is planned. -/
def plan : Utility := plainUtility fun as s =>
  match as with
  | [] =>
    let sorted := s.traps.mergeSort fun a b => decide (a.1 ≤ b.1)
    ending 0 (sorted.foldl (fun s t =>
      s.printLine (Octets.ofString "trap -- " ++ inQuotes t.2 ++
        ' ' :: Octets.ofString (Signal.names.getD t.1 ""))) s)
  | a :: rest =>
    let (action, conditions) : Option Octets × List Octets :=
      if rest.isEmpty || (Numeral.natural? a).isSome then (none, as)
      else (if a = ['-'] then none else some a, rest)
    set action conditions s
where
  /-- Plan the action at the conditions. -/
  set (action : Option Octets) : List Octets → State → Flow × State
    | [], s => ending 0 s
    | c :: rest, s =>
      match Signal.number? c with
      | none => ending 1 (s.complain ("trap: " ++ Octets.decode c ++ ": bad trap"))
      | some n =>
        let others := s.traps.filter fun t => t.1 ≠ n
        set action rest { s with
          traps := (action.map fun a => (n, a) :: others).getD others }

/-! ## Tests -/

/-- Test the arguments. -/
def test : Utility := fun as s =>
  match Condition.evaluate s as with
  | .ok true => ending 0 s
  | .ok false => ending 1 s
  | .error e => s.refuse e.message

/-- Test the arguments before a closing bracket. -/
def bracketTest : Utility := fun as s =>
  if as.getLast? = some [']'] then test as.dropLast s else s.refuse "missing ]"

/-! ## Surroundings -/

/-- The letters of permissions. -/
def permissionText (bits : Nat) : String :=
  (if bits / 4 % 2 = 1 then "r" else "") ++ (if bits / 2 % 2 = 1 then "w" else "") ++
    if bits % 2 = 1 then "x" else ""

/-- Show or set the permissions that new files do not get. -/
def permissions : Utility := withOptions [('S', false)] fun given as s =>
  match as with
  | [] =>
    let m := s.mask
    if given.isEmpty then
      let ds := Nat.toDigits 8 m
      ending 0 (s.printLine (List.replicate (4 - ds.length) '0' ++ ds))
    else
      let shown (bits : Nat) : String := permissionText (7 - bits % 8)
      ending 0 (s.printLine (Octets.ofString
        ("u=" ++ shown (m / 64) ++ ",g=" ++ shown (m / 8) ++ ",o=" ++ shown m)))
  | a :: _ =>
    if (a.head?.map Char.isDigit).getD false then
      if a.all isOctal then ending 0 { s with mask := Numeral.ofDigits 8 a % 512 }
      else notNumber a s
    else if a.contains '=' || a.contains '+' || a.contains '-' then ending 0 s
    else s.refuse ("Illegal mode: " ++ Octets.decode a)

/-- Print how much may be used. -/
def limits : Utility :=
  withOptions ("HSatfdsmcnplvwr".toList.map fun c => (c, false)) fun _ as s =>
    if as.isEmpty then ending 0 (s.printLine (Octets.ofString "unlimited")) else ending 0 s

/-- Print how much time has been used. -/
def times : Utility := fun _ s =>
  let line := Octets.ofString "0m0.00s 0m0.00s"
  ending 0 ((s.printLine line).printLine line)

/-! ## The list of utilities -/

/-- The utilities of the shell that run no other commands. -/
def builtins : List (String × Utility) := [
  (":", fun _ => ending 0),
  ("true", fun _ => ending 0),
  ("false", fun _ => ending 1),
  ("echo", echo),
  ("printf", printf),
  ("exit", exit),
  ("return", finish),
  ("break", leaveLoops false),
  ("continue", leaveLoops true),
  ("shift", shift),
  ("set", setOptions),
  ("unset", unset),
  ("export", markVariables "export" (fun v => { v with exported := true }) Variable.exported),
  ("readonly", markVariables "readonly" (fun v => { v with fixed := true }) Variable.fixed),
  ("local", localVariables),
  ("alias", setAliases),
  ("unalias", unsetAliases),
  ("read", readLine),
  ("getopts", takeOption),
  ("cd", changeDirectory),
  ("chdir", changeDirectory),
  ("pwd", printDirectory),
  ("test", test),
  ("[", bracketTest),
  ("kill", send),
  ("trap", plan),
  ("umask", permissions),
  ("ulimit", limits),
  ("times", times),
  ("jobs", fun _ => ending 0),
  ("fg", fun _ s => s.refuse "No current job"),
  ("bg", fun _ s => s.refuse "No current job")]

/-- The utilities that run other commands or look for them. -/
def runners : List String := [".", "command", "eval", "exec", "hash", "type", "wait"]

/-- The utilities that end a script when they are used wrongly, and whose assignments stay. -/
def specialUtilities : List String := [".", ":", "break", "continue", "eval", "exec", "exit",
  "export", "local", "readonly", "return", "set", "shift", "times", "trap", "unset"]

/-- Whether a name is that of a utility of the shell. -/
def isUtility (name : String) : Bool :=
  runners.contains name || (builtins.lookup name).isSome

end LintBridge.Shell
