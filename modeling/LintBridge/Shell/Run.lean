/-
# Running scripts

A script is run command by command.  The fuel bounds how many commands are run one inside the other;
a loop has a bound of its own on its rounds, and a list of commands none.

* `Shell.run`: run a command.
* `Shell.evaluate`: run a text.
* `Shell.execute`: run a program.
-/
import LintBridge.Shell.Program
import LintBridge.Shell.Reader

namespace LintBridge.Shell

/-- How commands are run. -/
abbrev Runner := Command → State → Flow × State

/-! ## Endings -/

/-- How a process ends whose script ended like this. -/
def endingOf : Flow → State → Ending
  | .killed n, _ => .killed n
  | .leave n, _ => .exited (n % 256)
  | .broken n, _ => .exited (n % 256)
  | _, s => .exited (s.status % 256)

/-- Tell of a process that was ended by a signal. -/
def State.tell (s : State) : Ending → State
  | .exited _ => s
  | .killed n => ((Signal.farewell? n).map s.complain).getD s

/-- The state after a process has been waited for. -/
def State.reap (s : State) (e : Ending) : State := (s.tell e).code e.status

/-- A word that could not be expanded ends the script. -/
def unlessDoomed (s : State) (go : Unit → Flow × State) : Flow × State :=
  if s.doomed then (.broken 2, { s with doomed := false }) else go ()

/-- Whether an error means that there is no such program. -/
def isMissing (e : DiskError) : Bool :=
  [DiskError.notFound, .notDirectory, .tooManyLinks, .nameTooLong].contains e

/-! ## Loops -/

/-- The greatest number of rounds of a loop. -/
def maxRounds : Nat := 1000000

/-- How a round of a loop ends: whether another one follows, or else how the loop ends. -/
def roundEnd : Flow → Option Flow
  | .next => none
  | .leaveLoops n => some (if n ≤ 1 then .next else .leaveLoops (n - 1))
  | .nextRound n => if n ≤ 1 then none else some (.nextRound (n - 1))
  | flow => some flow

/-- The rounds of a loop, as long as the condition succeeds, or fails if `inverted` is true; the
exit code is that of the last round. -/
def rounds (condition body : State → Flow × State) (inverted : Bool) :
    Nat → Nat → State → Flow × State
  | 0, _, s => (.broken 2, s)
  | n + 1, last, s =>
    match condition s with
    | (.next, s) =>
      if (s.status = 0) = (inverted = false) then
        let (flow, s) := body s
        match roundEnd flow with
        | none => rounds condition body inverted n s.status s
        | some flow => (flow, s)
      else (.next, s.code last)
    | (flow, s) =>
      match roundEnd flow with
      | none => rounds condition body inverted n s.status s
      | some flow => (flow, s)

/-- The rounds of a loop over words. -/
def eachRound (body : State → Flow × State) (name : Octets) :
    List Octets → State → Flow × State
  | [], s => (.next, s)
  | w :: ws, s =>
    match s.set? name w with
    | .error e => s.refuse e
    | .ok s =>
      let (flow, s) := body s
      match roundEnd flow with
      | none => eachRound body name ws s
      | some flow => (flow, s)

/-- Run the first arm with a pattern that matches. -/
def choose (capture : Capture) (run : Runner) (text : Octets) :
    List (List Word × Command) → State → Flow × State
  | [], s => (.next, s.code 0)
  | (patterns, body) :: rest, s =>
    let (found, s) := matchesAny capture text patterns s
    unlessDoomed s fun _ =>
      if found then
        match body with
        | .nothing => (.next, s.code 0)
        | body => run body s
      else choose capture run text rest s

/-- How many functions may be run one inside the other. -/
def maxCalls : Nat := 1000

/-! ## Words of a command -/

/-- The utilities whose arguments may be assignments. -/
def assigningUtilities : List String := ["alias", "export", "local", "readonly"]

/-- The words of a command without `command` and its options in front, and whether there was such a
front. -/
def bareCommand : Nat → List Octets → Bool × List Octets
  | 0, fields => (false, fields)
  | fuel + 1, fields =>
    match fields with
    | name :: rest =>
      if name = Octets.ofString "command" then
        match optionsOf [('p', false), ('v', false), ('V', false)] rest with
        | .ok (given, behind) =>
          if behind.isEmpty || given.any fun g => g.1 ≠ 'p' then (false, fields)
          else (true, (bareCommand fuel behind).2)
        | .error _ => (false, fields)
      else (false, fields)
    | [] => (false, [])

/-- The fields of the words of a command. -/
def expandCommand (capture : Capture) (ws : List Word) (s : State) : List Octets × State :=
  ws.foldl (fun (found, s) w =>
    let assigns := ((bareCommand found.length found).2.head?.map fun name =>
      assigningUtilities.contains (Octets.decode name)).getD false
    match assigns, w.assignment? with
    | true, some (name, value) =>
      let (text, s) := expandText capture true value s
      (found ++ [name ++ '=' :: text], s)
    | _, _ =>
      let (fields, s) := expandFields capture w s
      (found ++ fields, s)) ([], s)

/-- Set variables as a command says that does not end before; the texts of the assignments are
handed on. -/
def assignAll (capture : Capture) (exported : Bool) :
    List (Octets × Word) → List Octets → State → List Octets × State
  | [], done, s => (done.reverse, s)
  | (name, w) :: rest, done, s =>
    if s.doomed then (done.reverse, s)
    else
      let (text, s) := expandText capture true w s
      if s.doomed then (done.reverse, s)
      else
        let s := s.assigned name text
        let s := if exported && !s.doomed then s.setExported name text else s
        assignAll capture exported rest ((name ++ '=' :: text) :: done) s

/-- Write what is going to be run to the standard error of `before`. -/
def State.trace (s before : State) (capture : Capture) (words : List Octets) : State :=
  let mark := (s.valueOf? (Octets.ofString "PS4")).getD []
  let (mark, s) :=
    if mark.any fun c => c = '$' || c = '\x60' || c = '\\' then
      match (parts (readingFuel mark) (.text none) 0 []).run { rest := mark, line := 1 } with
      | .ok (w, _) => expandText capture false w { s with options := s.options.filter (· ≠ 'x') }
      | .error _ => (mark, s)
    else (mark, s)
  let shown := (({ s with descriptors := before.descriptors }).write 2
    (mark ++ spaced words ++ ['\n'])).2
  { shown with descriptors := s.descriptors, options := before.options }

/-! ## Scripts -/

/-- Run the commands that are left to be read; `ran` tells whether there has been one. -/
def runRest (run : Runner) : Nat → Bool → Cursor → State → Flow × State
  | 0, _, _, s => (.next, s)
  | n + 1, ran, c, s =>
    let c := { c with aliases := s.aliases, count := s.textCount, texts := [] }
    match nextCommand.run c with
    | .error e => (.broken 2, s.blameLine e.line ("Syntax error: " ++ e.error.message))
    | .ok (none, _) => (.next, if ran then s else s.code 0)
    | .ok (some command, after) =>
      let read := c.rest.take (c.rest.length - after.rest.length)
      let s := if s.has 'v' then (s.write 2 read).2 else s
      let s := { s with
        texts := after.texts ++ s.texts
        textCount := after.count
        lineRead := after.line }
      match command with
      | .nothing => runRest run n ran after s
      | command =>
        match run command s with
        | (.next, s) => runRest run n true after s
        | stopped => stopped

/-- Run a text. -/
def runText (run : Runner) (text : Octets) (s : State) : Flow × State :=
  let (flow, after) := runRest run (text.length + 2) false { rest := text, line := 1 } s
  (flow, { after with lineRead := s.lineRead })

/-- Run what is planned for the given signals, whose numbers go up. -/
def runPlans (evaluate : Octets → State → Flow × State) : List Nat → State → Flow × State
  | [], s => (.next, s)
  | n :: rest, s =>
    match s.traps.lookup n with
    | none => if Signal.isHarmless n then runPlans evaluate rest s else (.killed n, s)
    | some [] => runPlans evaluate rest s
    | some action =>
      match evaluate action { s with beforeTrap := some s.status } with
      | (.next, after) =>
        runPlans evaluate rest { after.code s.status with beforeTrap := s.beforeTrap }
      | (flow, after) => (flow, after)

/-- Do what is planned for the signals that have been sent to the process. -/
def State.attend (s : State) (evaluate : Octets → State → Flow × State) : Flow × State :=
  let (mine, others) := s.signals.partition fun m => m.1 = s.identity
  if mine.isEmpty then (.next, s)
  else
    runPlans evaluate ((List.range Signal.names.length).filter fun n =>
      mine.any fun m => m.2 = n) { s with signals := others }

/-- The end of a process in which too many commands are run one inside the other. -/
def overflow : Flow := .killed Signal.badAccess

mutual

/-- Run a command. -/
def run : Nat → Runner
  | 0, _, s => (overflow, s)
  | fuel + 1, c, s =>
    if s.has 'n' then (.next, s)
    else match c with
    | .nothing => (.next, s)
    | .simple line assignments words redirects =>
      settle fuel true (simple fuel assignments words redirects
        { s with line := line, substituted := none })
    | .sequence a b =>
      match run fuel a s with
      | (.next, s) => run fuel b s
      | stopped => stopped
    | .both a b =>
      match run fuel a { s with tested := true } with
      | (.next, after) =>
        let after := { after with tested := s.tested }
        if after.status = 0 then run fuel b after else (.next, after)
      | (flow, after) => (flow, { after with tested := s.tested })
    | .either a b =>
      match run fuel a { s with tested := true } with
      | (.next, after) =>
        let after := { after with tested := s.tested }
        if after.status = 0 then (.next, after) else run fuel b after
      | (flow, after) => (flow, { after with tested := s.tested })
    | .negated a =>
      match run fuel a { s with tested := true } with
      | (.next, after) =>
        (.next, { after.code (if after.status = 0 then 1 else 0) with tested := s.tested })
      | (flow, after) => (flow, { after with tested := s.tested })
    | .pipe commands => settle fuel true (.next, piped fuel commands s)
    | .background body =>
      let job : Job := {
        number := s.nextNumber
        owner := s.identity
        work := some (body, s.toProcess) }
      settle fuel true (.next, { s.code 0 with
        jobs := s.jobs ++ [job]
        nextNumber := s.nextNumber + 1
        lastJob := some s.nextNumber })
    | .grouped line isolated body redirects =>
      let numbers := redirects.map Redirect.descriptor
      let capture := captured fuel
      if isolated then
        let inner := { s.copied with line := line }
        let (possible, opened) := redirect capture redirects inner
        let result := if possible then run fuel body opened else (.broken 2, opened)
        let (e, after) := conclude fuel result.1 result.2
        settle fuel true (.next, (s.rejoin after).reap e)
      else
        let (possible, opened) := redirect capture redirects { s with line := line }
        unlessDoomed opened fun _ =>
          if possible then
            let (flow, after) := run fuel body opened
            (flow, after.restoreDescriptors numbers s)
          else (.next, (opened.code 2).restoreDescriptors numbers s)
    | .choice condition yes no =>
      match run fuel condition { s with tested := true } with
      | (.next, after) =>
        let after := { after with tested := s.tested }
        if after.status = 0 then run fuel yes after
        else
          match no with
          | .nothing => (.next, after.code 0)
          | no => run fuel no after
      | (flow, after) => (flow, { after with tested := s.tested })
    | .loop inverted condition body =>
      let test (t : State) : Flow × State :=
        let (flow, after) := run fuel condition { t with tested := true }
        (flow, { after with tested := s.tested })
      let (flow, after) :=
        rounds test (run fuel body) inverted maxRounds 0 { s with loops := s.loops + 1 }
      (flow, { after with loops := s.loops })
    | .each line name words body =>
      let s := { s with line := line }
      let (fields, s) :=
        match words with
        | none => (s.arguments, s)
        | some ws => expandAll (captured fuel) ws s
      unlessDoomed s fun _ =>
        let (flow, after) :=
          eachRound (run fuel body) name fields { s.code 0 with loops := s.loops + 1 }
        (flow, { after with loops := s.loops })
    | .arms line w options =>
      let (text, s) := expandText (captured fuel) false w { s with line := line }
      unlessDoomed s fun _ => choose (captured fuel) (run fuel) text options s
    | .define name body =>
      (.next, { s.code 0 with
        functions := (name, body) :: s.functions.filter fun f => f.1 ≠ name })

/-- What follows a command: the signals that have arrived are dealt with, and a failure ends a
strict script if `counts` is true. -/
def settle : Nat → Bool → Flow × State → Flow × State
  | 0, _, r => r
  | fuel + 1, counts, (flow, s) =>
    match flow with
    | .next =>
      match s.attend (evaluate fuel) with
      | (.next, s) =>
        if counts && s.has 'e' && !s.tested && s.status ≠ 0 then (.leave s.status, s)
        else (.next, s)
      | stopped => stopped
    | flow => (flow, s)

/-- Run a text. -/
def evaluate : Nat → Octets → State → Flow × State
  | 0, _, s => (overflow, s)
  | fuel + 1, text, s => runText (run fuel) text s

/-- What a command prints in a copy of the process, and the state afterwards. -/
def captured : Nat → Capture
  | 0, _, s => ([], s)
  | fuel + 1, body, s =>
    let (inner, index) := { s.copied with tested := false }.catchOutput
    let (flow, after) := run fuel body inner
    let (e, after) := conclude fuel flow after
    (after.written index, { (s.rejoin after).tell e with substituted := some e.status })

/-- The end of a process: what is planned for it is done, and commands that nobody waited for are
run. -/
def conclude : Nat → Flow → State → Ending × State
  | 0, flow, s => (endingOf flow s, s)
  | fuel + 1, flow, s =>
    match endingOf flow s, s.traps.lookup 0 with
    | .exited code, some action =>
      let s := { s with
        traps := s.traps.filter fun t => t.1 ≠ 0
        beforeTrap := some code
        loops := 0
        utility := none }
      let (e, s) :=
        match evaluate fuel action (s.code code) with
        | (.leave n, s) => (.exited (n % 256), s)
        | (.killed n, s) => (.killed n, s)
        | (_, s) => (Ending.exited code, s)
      (e, background fuel s)
    | e, _ => (e, background fuel s)

/-- Run the commands that the process did not wait for. -/
def background : Nat → State → State
  | 0, s => s
  | fuel + 1, s =>
    let mine := s.jobs.filter fun j => j.owner = s.identity && j.work.isSome
    mine.foldl (fun s j =>
      match j.work with
      | none => s
      | some (body, owner) =>
        let start : State := { toProcess := owner, toWorld := s.toWorld }
        let start : State := { start.copied with identity := j.number, tested := false }
        let start := start.openFile 0 { target := .void }
        let (flow, after) := run fuel body start
        let (e, after) := conclude fuel flow after
        let s := s.rejoin after
        { s with
          jobs := s.jobs.map fun k =>
            if k.number = j.number then { k with work := none, ending := e } else k }) s

/-- Run commands each of which reads what the one before it writes. -/
def piped : Nat → List Command → State → State
  | 0, _, s => s
  | fuel + 1, commands, s =>
    let link (input : Option Octets) (last : Bool) (body : Command) (s : State) :
        Octets × State :=
      let inner := s.copied
      let inner :=
        match input with
        | none => inner
        | some text => inner.openFile 0 { target := .supply text, writable := false }
      let (inner, index) := if last then (inner, 0) else inner.catchOutput
      let (flow, after) := run fuel body inner
      let (e, after) := conclude fuel flow after
      (if last then [] else after.written index, (s.rejoin after).reap e)
    (commands.foldl (fun (r : Option Octets × Nat × State) body =>
      let (input, left, s) := r
      let (text, s) := link input (left ≤ 1) body s
      (some text, left - 1, s)) (none, commands.length, s)).2.2

/-- Run a command that is made of words. -/
def simple : Nat → List (Octets × Word) → List Word → List Redirect → State → Flow × State
  | 0, _, _, _, s => (overflow, s)
  | fuel + 1, assignments, words, redirects, s =>
    let capture := captured fuel
    let (fields, s1) := expandCommand capture words s
    let numbers := redirects.map Redirect.descriptor
    let first := fields.head?.map Octets.decode
    let isSpecial := (first.map specialUtilities.contains).getD false
    let (_, bare) := bareCommand fields.length fields
    let isBareExec := bare = [Octets.ofString "exec"]
    unlessDoomed s1 fun _ =>
      let (possible, s2) := redirect capture redirects s1
      let back (r : State) : State :=
        if isBareExec then r else r.restoreDescriptors numbers s1
      unlessDoomed s2 fun _ =>
        if !possible then (if isSpecial then .broken 2 else .next, back (s2.code 2))
        else
          let stays := fields.isEmpty || isSpecial
          let exported := !stays || (first = some "exec" && 1 < fields.length)
          let before := assignments.map fun a => s2.remember a.1
          let (texts, s3) := assignAll capture exported assignments [] s2
          unlessDoomed s3 fun _ =>
            let s4 := if s3.has 'x' then s3.trace s1 capture (texts ++ fields) else s3
            if fields.isEmpty then (.next, back (s4.code (s4.substituted.getD 0)))
            else
              let (flow, s5) := call fuel fields s4
              (flow, back (if stays then s5 else s5.restore before))

/-- Run a command that is given by its words. -/
def call : Nat → List Octets → State → Flow × State
  | 0, _, s => (overflow, s)
  | _, [], s => (.next, s)
  | fuel + 1, name :: as, s =>
    let (isBare, bare) := bareCommand (as.length + 1) (name :: as)
    if isBare then
      match bare with
      | [] => (.next, s)
      | name :: as => utility fuel false name as s
    else
      let word := Octets.decode name
      match if specialUtilities.contains word then none else s.functions.lookup name with
      | some body =>
        if maxCalls ≤ s.calls then
          s.refuse ("Maximum function recursion depth (" ++ toString maxCalls ++ ") reached")
        else
          let inner := { s with
            arguments := as
            loops := 0
            calls := s.calls + 1
            shadowed := []
            optionIndex := 1
            optionPlace := 0 }
          let (flow, after) := run fuel body inner
          (if flow = .finish then .next else flow,
            { after.restore after.shadowed with
              arguments := s.arguments
              loops := s.loops
              calls := s.calls
              shadowed := s.shadowed
              optionIndex := s.optionIndex
              optionPlace := s.optionPlace })
      | none => utility fuel (specialUtilities.contains word) name as s

/-- Run a utility or a program; `special` tells whether wrong use ends the script. -/
def utility : Nat → Bool → Octets → List Octets → State → Flow × State
  | 0, _, _, _, s => (overflow, s)
  | fuel + 1, special, name, as, s =>
    let word := Octets.decode name
    let inside := { s with utility := some name }
    let finished (r : Flow × State) : Flow × State :=
      let after := { r.2 with utility := s.utility }
      match r.1 with
      | .broken n => if special then (.broken n, after.code n) else (.next, after.code n)
      | flow => (flow, after)
    match builtins.lookup word with
    | some u => finished (u as inside)
    | none =>
      if runners.contains word then finished (runner fuel word as inside)
      else
        match spawn fuel false name as s with
        | .ok (e, s) => (.next, s.reap e)
        | .error (e, searched) =>
          (.next, (s.blame (word ++ ": " ++ openingReason "not found" e)).code
            (if searched || isMissing e then 127 else 126))

/-- Run a utility that runs or looks for other commands. -/
def runner : Nat → String → List Octets → State → Flow × State
  | 0, _, _, s => (overflow, s)
  | fuel + 1, word, as, s =>
    match word with
    | "eval" =>
      if as.isEmpty then ending 0 s else evaluate fuel (spaced as) s
    | "exec" =>
      match as with
      | [] => ending 0 s
      | name :: as =>
        match spawn fuel true name as s with
        | .ok (.exited n, s) => (.leave n, { s with traps := [] })
        | .ok (.killed n, s) => (.killed n, s)
        | .error (e, _) =>
          (.leave (if isMissing e then 127 else 126),
            s.blame (Octets.decode name ++ ": " ++ openingReason "not found" e))
    | "." =>
      match optionsOf [] as with
      | .error e => s.refuse e
      | .ok (_, []) => ending 0 s
      | .ok (_, file :: _) =>
        match s.search file with
        | .error _ => s.refuse (Octets.decode file ++ ": not found")
        | .ok path =>
          match s.content path with
          | .error e =>
            s.refuse ("cannot open " ++ Octets.decode path ++ ": " ++
              openingReason "No such file" e)
          | .ok text =>
            let (flow, after) :=
              evaluate fuel text { s with utility := some path, tested := false }
            let after := { after with tested := s.tested }
            (if flow = .finish then .next else flow, after)
    | "command" =>
      match optionsOf [('p', false), ('v', false), ('V', false)] as with
      | .error e => s.refuse e
      | .ok (given, names) =>
        match given.reverse.find? fun g => g.1 ≠ 'p' with
        | some (c, _) => tellOf (c = 'V') (names.take 1) s
        | none => ending 0 s
    | "type" => tellOf true as s
    | "hash" => lookUp as s
    | _ =>
      let s := background fuel s
      as.foldl (fun (flow, s) a =>
        match flow, count? a with
        | .next, none => notNumber a s
        | .next, some n =>
          match s.jobs.find? fun j => j.number = n && j.owner = s.identity with
          | some j => (.next, s.reap j.ending)
          | none => (.next, s.code 127)
        | flow, _ => (flow, s)) (ending 0 s)

/-- Run a program as a process of its own, or in place of the one that runs: how it ended, or why it
cannot be run and whether that is because it was looked for in vain. -/
def spawn :
    Nat → Bool → Octets → List Octets → State → Except (DiskError × Bool) (Ending × State)
  | 0, _, _, _, _ => .error (.notFound, true)
  | fuel + 1, replaces, name, as, s =>
    match s.search name with
    | .error e => .error (e, true)
    | .ok path =>
      let start (program : String) (as : List Octets) :
          Except (DiskError × Bool) (Ending × State) :=
        let s := background fuel s
        let (e, after) := execute fuel program as (s.forProgram replaces)
        .ok (e, s.rejoin after)
      match load s.view maxInterpreters (State.path path) as with
      | .ok (program, as) => start program as
      | .error .notExecutable => start "sh" (path :: as)
      | .error e => .error (e, false)

/-- Run a program that needs no file. -/
def execute : Nat → String → List Octets → State → Ending × State
  | 0, _, _, s => (.exited 2, s)
  | fuel + 1, program, as, s =>
    if shellNames.contains program then interpret fuel program as s.forShell
    else if program = "env" then
      let assigns (a : Octets) : Bool := a.contains '='
      let s := (as.takeWhile assigns).foldl (fun s a =>
        s.setExported (nameIn a) ((valueIn? a).getD [])) s
      match as.dropWhile assigns with
      | [] =>
        (.exited 0, s.environment.foldl (fun s b =>
          s.printLine (b.1 ++ '=' :: b.2.value.getD [])) s)
      | name :: as =>
        match spawn fuel true name as s with
        | .ok r => r
        | .error (e, _) =>
          (.exited (if isMissing e then 127 else 126),
            s.complain ("env: '" ++ Octets.decode name ++ "': " ++ e.reason))
    else
      match programs.lookup program with
      | some u =>
        let s := { s with name := Octets.ofString program, line := 0 }
        let (flow, s) := u as s
        (endingOf flow s, s)
      | none => (.exited 127, s)

/-- Run the shell with its arguments. -/
def interpret : Nat → String → List Octets → State → Ending × State
  | 0, _, _, s => (.exited 2, s)
  | fuel + 1, program, as, s =>
    let refuse (reason : String) : Ending × State :=
      (.exited 2, s.complain (program ++ ": 0: " ++ reason))
    let script (name : Octets) (as : List Octets) (text : Octets) (s : State) : Ending × State :=
      let (flow, s) := runText (run fuel) text { s with name := name, arguments := as, line := 1 }
      conclude fuel flow s
    match s.asked true as with
    | .error e => refuse e
    | .ok asked =>
      let s := asked.state
      match asked.command, asked.rest with
      | true, [] => refuse "-c requires an argument"
      | true, text :: rest =>
        script (rest.headD (Octets.ofString program)) rest.tail text s
      | false, file :: rest =>
        if s.has 's' then
          let text := (s.remaining? 0).getD []
          script (Octets.ofString program) (file :: rest) text (s.advance 0 text.length)
        else
          match s.content file with
          | .ok text => script file rest text s
          | .error .isDirectory => script file rest [] s
          | .error e =>
            refuse ("cannot open " ++ Octets.decode file ++ ": " ++ openingReason "No such file" e)
      | false, [] =>
        let text := (s.remaining? 0).getD []
        script (Octets.ofString program) [] text (s.advance 0 text.length)

end

/-- How many commands may be run one inside the other. -/
def maxDepth : Nat := 60000

end LintBridge.Shell
