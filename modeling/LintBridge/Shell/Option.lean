/-
# Options

* `Shell.optionsOf`: the options that arguments start with, and what follows them.
* `Shell.optionNames`: the options of the shell itself.
-/
import LintBridge.Shell.Machine

namespace LintBridge.Shell

/-- An option with its argument, which is empty if it takes none. -/
abbrev Given := Char × Octets

/-- The letters of one argument, where `known` tells which options there are and whether they take
an argument, and `rest` are the arguments behind it. -/
def lettersOf (known : List (Char × Bool)) :
    Octets → List Octets → Except String (List Given × List Octets)
  | [], rest => .ok ([], rest)
  | c :: letters, rest =>
    match known.lookup c with
    | none => .error ("Illegal option -" ++ String.singleton c)
    | some false => (lettersOf known letters rest).map fun r => ((c, []) :: r.1, r.2)
    | some true =>
      match letters, rest with
      | [], [] => .error ("No arg for -" ++ String.singleton c ++ " option")
      | [], a :: rest => .ok ([(c, a)], rest)
      | a, rest => .ok ([(c, a)], rest)

/-- The options at the front of at most so many arguments, and the arguments behind them. -/
def optionsWithin (known : List (Char × Bool)) :
    Nat → List Octets → Except String (List Given × List Octets)
  | 0, as => .ok ([], as)
  | fuel + 1, as =>
    match as with
    | ('-' :: c :: letters) :: rest =>
      if c = '-' && letters.isEmpty then .ok ([], rest)
      else do
        let (given, rest) ← lettersOf known (c :: letters) rest
        let (more, rest) ← optionsWithin known fuel rest
        return (given ++ more, rest)
    | as => .ok ([], as)

/-- The options at the front of arguments, and the arguments behind them. -/
def optionsOf (known : List (Char × Bool)) (as : List Octets) :
    Except String (List Given × List Octets) :=
  optionsWithin known as.length as

/-- The options of the shell with their letters; some have none. -/
def optionNames : List (String × Option Char) := [
  ("errexit", some 'e'), ("noglob", some 'f'), ("ignoreeof", some 'I'), ("interactive", some 'i'),
  ("monitor", some 'm'), ("noexec", some 'n'), ("stdin", some 's'), ("xtrace", some 'x'),
  ("verbose", some 'v'), ("vi", some 'V'), ("emacs", some 'E'), ("noclobber", some 'C'),
  ("allexport", some 'a'), ("notify", some 'b'), ("nounset", some 'u'), ("privileged", some 'p'),
  ("nolog", none), ("debug", none)]

namespace State

/-- Turn an option on or off by its letter. -/
def turn (s : State) (on : Bool) (letter : Char) : State :=
  let others := s.options.filter (· ≠ letter)
  { s with options := if on then letter :: others else others }

/-- Turn an option on or off by its letter, if there is one with that letter. -/
def turnLetter (s : State) (on : Bool) (letter : Char) : Except String State :=
  if optionNames.any fun o => o.2 = some letter then .ok (s.turn on letter)
  else .error ("Illegal option -" ++ String.singleton letter)

/-- Turn an option on or off by its name. -/
def turnName (s : State) (on : Bool) (name : Octets) : Except String State :=
  match optionNames.lookup (String.ofList name) with
  | some (some letter) => .ok (s.turn on letter)
  | some none => .ok s
  | none => .error ("Illegal option -o " ++ Octets.decode name)

/-- Print which options are on, perhaps in the form of commands. -/
def printOptions (s : State) (asCommands : Bool) : State :=
  let isOn (letter : Option Char) : Bool := (letter.map s.has).getD false
  let line (o : String × Option Char) : String :=
    if asCommands then "set " ++ (if isOn o.2 then "-o " else "+o ") ++ o.1
    else
      o.1 ++ String.ofList (List.replicate (16 - o.1.length) ' ') ++
        if isOn o.2 then "on" else "off"
  let lines := optionNames.map line
  let lines := if asCommands then lines else "Current option settings" :: lines
  lines.foldl (fun s l => s.printLine (Octets.ofString l)) s

/-- What the options at the front of arguments of the shell ask for. -/
structure Asked where
  state : State
  /-- Whether a command is given in place of a file. -/
  command : Bool := false
  /-- The arguments behind the options. -/
  rest : List Octets
  /-- Whether the options end with two dashes. -/
  ended : Bool := false

/-- Turn options on or off by letters, where `names` are the arguments that names are taken from. -/
def turnAll (s : State) (on starting : Bool) :
    Octets → List Octets → Except String (State × Bool × List Octets)
  | [], names => .ok (s, false, names)
  | c :: letters, names => do
    if c = 'c' && starting then
      let (s, _, names) ← turnAll s on starting letters names
      return (s, true, names)
    else if c = 'l' && starting then turnAll s on starting letters names
    else if c = 'o' then
      match names with
      | [] => turnAll (s.printOptions (!on)) on starting letters []
      | name :: names => turnAll (← s.turnName on name) on starting letters names
    else turnAll (← s.turnLetter on c) on starting letters names

/-- The options at the front of at most so many arguments; `starting` tells whether the shell starts
with them. -/
def askedWithin (starting : Bool) : Nat → State → List Octets → Except String Asked
  | 0, s, as => .ok { state := s, rest := as }
  | fuel + 1, s, as =>
    match as with
    | ['-', '-'] :: rest => .ok { state := s, rest := rest, ended := true }
    | ['-'] :: rest =>
      .ok { state := if starting then s else (s.turn false 'x').turn false 'v', rest := rest }
    | (sign :: letters) :: rest =>
      if sign = '-' || sign = '+' then do
        let (s, command, rest) ← turnAll s (sign = '-') starting letters rest
        let asked ← askedWithin starting fuel s rest
        return { asked with command := asked.command || command }
      else .ok { state := s, rest := as }
    | as => .ok { state := s, rest := as }

/-- The options at the front of arguments. -/
def asked (starting : Bool) (s : State) (as : List Octets) : Except String Asked :=
  askedWithin starting (as.length + 1) s as

end State

end LintBridge.Shell
