/-
# Reading shell scripts

Words are read with their quotes and expansions taken apart; a command inside a word is read there
and then.  A script is read one complete command at a time, so that what stands before an error can
be run.

* `Shell.parts`: the parts of a word.
* `Shell.commandList`: commands up to a token that ends them.
* `Shell.nextCommand`: the next complete command of a script.
-/
import LintBridge.Shell.Token

namespace LintBridge.Shell

/-- Whether a character ends an unquoted word. -/
def isMeta (c : Char) : Bool := [' ', '\t', '\n', ';', '&', '|', '<', '>', '(', ')'].contains c

/-- The parameters with one special character as their name. -/
def isSpecial (c : Char) : Bool := ['@', '*', '#', '?', '$', '!', '-'].contains c || c.isDigit

/-- Where parts of a word stand. -/
inductive Mode where
  /-- Outside of everything. -/
  | bare
  /-- In the word that ends a text, where a dollar sign means nothing. -/
  | last
  /-- Between double quotes in such a word. -/
  | quotedLast
  /-- Between double quotes. -/
  | quoted
  /-- In a text that is not quoted; one that follows a command ends with a line of its own. -/
  | text (waiting : Option Waiting)
  /-- In an operand between braces. -/
  | operand
  /-- In an operand between braces between double quotes, or in a text. -/
  | quotedOperand (waiting : Option Waiting)
  /-- Between the parentheses of an arithmetic expression, perhaps in a text. -/
  | arithmetic (waiting : Option Waiting)
deriving DecidableEq, Repr

namespace Mode

/-- Whether what stands there is quoted. -/
def isQuoted : Mode → Bool
  | quoted => true
  | quotedLast => true
  | text _ => true
  | quotedOperand _ => true
  | arithmetic _ => true
  | _ => false

/-- Whether the parts end before a character.  `depth` counts the parentheses that are open in an
expression, and the quotes that are open in an operand between quotes. -/
def stops (depth : Nat) (c : Char) : Mode → Bool
  | bare => isMeta c
  | last => isMeta c
  | quoted => c = '"'
  | quotedLast => c = '"'
  | text _ => false
  | operand => c = '\x7d'
  | quotedOperand _ => c = '\x7d' && depth = 0
  | arithmetic _ => c = ')' && depth = 0

/-- The characters that lose their meaning after a backslash; any character does so outside of
quotes. -/
def escapes : Mode → Char → Bool
  | quoted, c => ['$', '\x60', '"', '\\'].contains c
  | quotedLast, c => ['$', '\x60', '"', '\\'].contains c
  | arithmetic _, c => ['$', '\x60', '"', '\\'].contains c
  | text _, c => ['$', '\x60', '\\'].contains c
  | quotedOperand _, c => ['$', '\x60', '"', '\\', '\x7d'].contains c
  | _, _ => true

/-- What is missing when the script ends inside the parts. -/
def unclosed? : Mode → Option SyntaxError
  | quoted => some .unclosedQuote
  | quotedLast => some .unclosedQuote
  | operand => some .unclosedBrace
  | quotedOperand none => some .unclosedQuote
  | quotedOperand (some _) => some .unclosedBrace
  | arithmetic _ => some .unclosedArithmetic
  | _ => none

/-- The text with a line of its own at its end in which the parts stand. -/
def waiting? : Mode → Option Waiting
  | text w => w
  | quotedOperand w => w
  | arithmetic w => w
  | _ => none

/-- Whether the parts stand in an arithmetic expression. -/
def isArithmetic : Mode → Bool
  | arithmetic _ => true
  | _ => false

end Mode

/-- The use of a parameter between braces, from the characters after its name.  A use that there is
not is passed like the others, even if it is a line end, which then does not count as one. -/
def useOf : Reader Use := do
  let twice (c : Char) (use : Bool → Use) : Reader Use := do
    pass
    return use (← passIf c)
  let colon ← passIf ':'
  match colon, ← peek with
  | false, some '#' => twice '#' .dropFront
  | false, some '%' => twice '%' .dropBack
  | colon, some c =>
    if c = '\x7d' && !colon then return .plain
    modify fun now => { now with rest := now.rest.drop 1 }
    match c with
    | '-' => return .orElse colon
    | '=' => return .assign colon
    | '+' => return .instead colon
    | '?' => return .demand colon
    | _ => return .malformed
  | _, none => fault .unclosedBrace

/-- Whether the operand is a pattern, in which quotes around the whole do not count. -/
def Use.isPattern : Use → Bool
  | .dropFront _ => true
  | .dropBack _ => true
  | _ => false

/-- The name of a parameter at the front; between braces it may have several digits. -/
def parameterName (braced : Bool) : Reader (Option Octets) := do
  match ← peek with
  | none => return none
  | some c =>
    if startsName c then some <$> takeChars inName
    else if braced && c.isDigit then some <$> takeChars Char.isDigit
    else if isSpecial c then
      pass
      return some [c]
    else return none

/-- The name and the use of a parameter behind an opening brace. -/
def bracedParameter : Reader (Octets × Use) := do
  if ← passIf '#' then
    match ← peek with
    | some '\x7d' => return (['#'], .plain)
    | some c =>
      let before ← get
      match ← parameterName true with
      | some name =>
        if (← peek) = some '\x7d' then return (name, .length)
        else if startsName c || c.isDigit then return (name, .malformed)
        else
          set before
          return (['#'], ← useOf)
      | none => return (['#'], ← useOf)
    | none => fault .unclosedBrace
  else
    match ← parameterName true with
    | some name => return (name, ← useOf)
    | none => return ([], .malformed)

/-- What tokens are looked for. -/
structure Search where
  /-- Line ends do not count. -/
  skipLines : Bool := false
  /-- Some words have a meaning of their own. -/
  keywords : Bool := false
  /-- Some words stand for other texts. -/
  aliases : Bool := false

/-- At the start of a command. -/
def Search.start : Search := ⟨true, true, true⟩

/-- At the start of a command on the same line. -/
def Search.here : Search := ⟨false, true, true⟩

/-- Put the last token back. -/
def putBack : Reader Unit := modify fun c => { c with ahead := some c.recent }

/-- The kind of the redirection that starts with the given character, which has been passed. -/
def arrowOf (c : Char) : Reader Arrow := do
  if c = '>' then
    if ← passIf '>' then return .output .append
    else if ← passIf '|' then return .output .clobber
    else if ← passIf '&' then return .copy
    else return .output .truncate
  else if ← passIf '<' then return .text (← passIf '-')
  else if ← passIf '&' then return .copy
  else if ← passIf '>' then return .output .update
  else return .input

/-- The text an alias stands for, unless that text is being read. -/
def aliasText? (word : Octets) : Reader (Option Octets) := do
  let c ← get
  let within := c.within.filter fun w => w.2 ≤ c.rest.length
  set { c with within := within }
  if (within.lookup word).isSome then return none
  return c.aliases.lookup word

/-- Whether the text of an alias that ends with a blank has been left since `before`. -/
def Cursor.leftBlank (c before : Cursor) : Bool :=
  before.within.any fun w =>
    w.2 ≤ before.rest.length && decide (c.rest.length < w.2) &&
      ((c.aliases.lookup w.1).bind (·.getLast?)).any fun x => x = ' ' || x = '\t'

/-- Whether a word may be the name of a function. -/
def isFunctionName (special : List String) (name : Octets) : Bool :=
  isName name && !special.contains (String.ofList name)

/-- The utilities whose names no function can have. -/
def specialNames : List String := [".", ":", "break", "continue", "eval", "exec", "exit", "export",
  "readonly", "return", "set", "shift", "times", "trap", "unset"]

mutual

/-- The parts of a word up to the character that ends them, which stays; `found` are the parts met
so far, in reverse. -/
def parts : Nat → Mode → Nat → Word → Reader Word
  | 0, _, _, _ => fault .exhausted
  | fuel + 1, mode, depth, found => do
    let quoted := mode.isQuoted
    let literal (text : Octets) (quoted : Bool) : Word :=
      match found with
      | .literal t q :: rest =>
        if q = quoted then .literal (t ++ text) q :: rest else .literal text quoted :: found
      | _ => .literal text quoted :: found
    match ← peek with
    | none =>
      match mode.unclosed? with
      | some error => fault error
      | none => return found.reverse
    | some c =>
      if mode.stops depth c then
        if mode.isArithmetic then
          pass
          if (← peek) = some ')' then return found.reverse
          parts fuel mode depth (literal [')'] true)
        else return found.reverse
      else
        let isMark := mode = .last || mode = .quotedLast
        pass
        match c with
        | '\\' =>
          match (← get).rest with
          | [] => parts fuel mode depth (literal ['\\'] true)
          | x :: _ =>
            pass
            if mode.escapes x then parts fuel mode depth (literal [x] true)
            else parts fuel mode depth (literal ['\\', x] true)
        | '\x27' =>
          if quoted then parts fuel mode depth (literal [c] true)
          else do
            let text ← upTo '\x27' .unclosedQuote
            parts fuel mode depth (literal text true)
        | '"' =>
          match mode with
          | .quotedOperand _ => parts fuel mode (1 - depth) (literal [] true)
          | .text _ => parts fuel mode depth (literal [c] true)
          | .arithmetic _ => parts fuel mode depth (literal [c] true)
          | _ =>
            let inner ← parts fuel (if isMark then .quotedLast else .quoted) 0 []
            pass
            match inner with
            | [.parameter ['@'] .plain _ _] => parts fuel mode depth (inner ++ found)
            | inner => parts fuel mode depth (inner.reverse ++ literal [] true)
        | '$' =>
          if isMark then parts fuel mode depth (literal [c] quoted)
          else
            match ← expansion fuel mode with
            | some part => parts fuel mode depth (part :: found)
            | none => parts fuel mode depth (literal [c] quoted)
        | '\x60' =>
          if isMark then parts fuel mode depth (literal [c] quoted)
          else
            let line := (← get).line
            let special := if quoted then ['\\', '\x60', '$', '"'] else ['\\', '\x60', '$']
            let source ← backquoted special fuel
            let behind ← get
            set { behind with rest := source, line := line, waiting := [] }
            let body ← commandList fuel 2
            modify fun c => { c with
              rest := behind.rest
              line := behind.line
              ahead := none
              waiting := behind.waiting }
            parts fuel mode depth (.output body quoted :: found)
        | '(' =>
          parts fuel mode (if mode.isArithmetic then depth + 1 else depth) (literal [c] quoted)
        | ')' =>
          parts fuel mode (if mode.isArithmetic then depth - 1 else depth) (literal [c] quoted)
        | '\n' =>
          let isLast ←
            match mode.waiting? with
            | some w => passLast w
            | none => pure false
          if isLast then
            match mode.unclosed? with
            | some error => fault error
            | none => return (literal [c] quoted).reverse
          else parts fuel mode depth (literal [c] quoted)
        | c => parts fuel mode depth (literal [c] quoted)

/-- The part after a dollar sign, if the sign has a meaning there. -/
def expansion : Nat → Mode → Reader (Option Part)
  | 0, _ => fault .exhausted
  | fuel + 1, mode => do
    let quoted := mode.isQuoted
    match ← peek with
    | some '(' =>
      pass
      if ← passIf '(' then
        let expression ← parts fuel (.arithmetic mode.waiting?) 0 []
        pass
        return some (.arithmetic expression quoted)
      else
        let waiting := (← get).waiting
        modify fun c => { c with waiting := [] }
        let body ← commandList fuel 2
        if !(← readToken fuel {}).isMark ")" then unexpected (some "\")\"")
        readTexts fuel
        modify fun c => { c with waiting := waiting }
        return some (.output body quoted)
    | some '\x7b' =>
      pass
      let (name, use) ← bracedParameter
      let inner : Mode :=
        if quoted && !use.isPattern then .quotedOperand mode.waiting? else .operand
      let operand ← if use = .plain || use = .length then pure [] else parts fuel inner 0 []
      if !(← passIf '\x7d') then fault .unclosedBrace
      return some (.parameter name use operand quoted)
    | _ =>
      match ← parameterName false with
      | some name => return some (.parameter name .plain [] quoted)
      | none => return none

/-- The next token, as it stands in the script. -/
def plainToken : Nat → Mode → Reader Token
  | 0, _ => fault .exhausted
  | fuel + 1, mode => do
    let operator (one : String) (c : Char) (two : String) : Reader Token := do
      pass
      return .mark (if ← passIf c then two else one)
    match ← peek with
    | none => return .endOfFile
    | some c =>
      match c with
      | ' ' =>
        pass
        plainToken fuel mode
      | '\t' =>
        pass
        plainToken fuel mode
      | '#' =>
        modify fun c => { c with rest := c.rest.dropWhile (· ≠ '\n') }
        plainToken fuel mode
      | '\n' =>
        pass
        return .newline
      | '&' => operator "&" '&' "&&"
      | '|' => operator "|" '|' "||"
      | ';' => operator ";" ';' ";;"
      | '(' =>
        pass
        return .mark "("
      | ')' =>
        pass
        return .mark ")"
      | _ =>
        let word ← parts fuel mode 0 []
        match (← get).rest.head?, word with
        | some a, [] =>
          if a = '<' || a = '>' then
            pass
            return .arrow (if a = '>' then 1 else 0) (← arrowOf a)
          else return .word word
        | some a, [.literal [d] false] =>
          if d.isDigit && (a = '<' || a = '>') then
            pass
            return .arrow (d.toNat - '0'.toNat) (← arrowOf a)
          else return .word word
        | _, word => return .word word

/-- The next token that is looked for. -/
def readToken : Nat → Search → Reader Token
  | 0, _ => fault .exhausted
  | fuel + 1, search => do
    let before ← get
    let token ←
      match before.ahead with
      | some token =>
        modify fun c => { c with ahead := none }
        pure token
      | none => plainToken fuel .bare
    modify fun c => { c with recent := token }
    let search := { search with aliases := search.aliases || (← get).leftBlank before }
    match token with
    | .newline =>
      if search.skipLines then
        readTexts fuel
        readToken fuel search
      else return token
    | .word w =>
      match w.plain? with
      | none => return token
      | some text =>
        if search.keywords && keywords.contains (String.ofList text) then
          let token := Token.mark (String.ofList text)
          modify fun c => { c with recent := token }
          return token
        else if search.aliases then
          match ← aliasText? text with
          | some text' =>
            modify fun c => { c with
              rest := text' ++ c.rest
              within := (text, c.rest.length) :: c.within }
            readToken fuel search
          | none => return token
        else return token
    | token => return token

/-- Read the texts that have been announced. -/
def readTexts : Nat → Reader Unit
  | 0 => fault .exhausted
  | fuel + 1 => do
    let c ← get
    match c.waiting with
    | [] => return
    | w :: waiting =>
      set { c with waiting := [] }
      if w.quoted then
        let (text, rest, lines) := linesUpTo w (c.rest.length + 1) c.rest
        keepText w.number [.literal text true]
        modify fun now => { now with rest := rest, line := c.line + lines }
      else if ← passLast w then keepText w.number []
      else keepText w.number (← parts fuel (.text (some w)) 0 [])
      modify fun now => { now with waiting := waiting }
      readTexts fuel

/-- Commands up to a token that ends them, which is put back.  `kind` is 1 for a complete command,
which ends with its line, and 2 if there may be no command at all. -/
def commandList : Nat → Nat → Reader Command
  | 0, _ => fault .exhausted
  | fuel + 1, kind => moreCommands fuel kind .nothing

/-- More commands behind the given ones. -/
def moreCommands : Nat → Nat → Command → Reader Command
  | 0, _, _ => fault .exhausted
  | fuel + 1, kind, found => do
    let token ← readToken fuel ⟨kind ≠ 1, true, true⟩
    match token with
    | .newline =>
      readTexts fuel
      return found
    | .endOfFile =>
      readTexts fuel
      modify fun c => { c with recent := .endOfFile }
      putBack
      return found
    | token =>
      putBack
      let isFirst := match found with | .nothing => true | _ => false
      if (kind = 2 || (kind = 0 && !isFirst)) && token.endsList then return found
      let next ← andOr fuel
      let token ← readToken fuel {}
      let next := if token.isMark "&" then .background next else next
      let found := if isFirst then next else .sequence found next
      match token with
      | .newline =>
        putBack
        moreCommands fuel kind found
      | .endOfFile =>
        putBack
        moreCommands fuel kind found
      | token =>
        if token.isMark "&" || token.isMark ";" then moreCommands fuel kind found
        else if kind = 1 then unexpected none
        else
          putBack
          return found

/-- Pipes joined by `&&` and `||`. -/
def andOr : Nat → Reader Command
  | 0 => fault .exhausted
  | fuel + 1 => do
    let first ← pipeline fuel {}
    andOrRest fuel first

/-- What follows the first of joined pipes. -/
def andOrRest : Nat → Command → Reader Command
  | 0, _ => fault .exhausted
  | fuel + 1, first => do
    let token ← readToken fuel {}
    if token.isMark "&&" then andOrRest fuel (.both first (← pipeline fuel .start))
    else if token.isMark "||" then andOrRest fuel (.either first (← pipeline fuel .start))
    else
      putBack
      return first

/-- Commands joined by `|`, perhaps behind an exclamation mark. -/
def pipeline : Nat → Search → Reader Command
  | 0, _ => fault .exhausted
  | fuel + 1, search => do
    let isNegated := (← readToken fuel search).isMark "!"
    if !isNegated then putBack
    let first ← command fuel (if isNegated then .here else {})
    let others ← pipeRest fuel
    let body := if others.isEmpty then first else .pipe (first :: others)
    return if isNegated then .negated body else body

/-- The commands of a pipe behind the first one. -/
def pipeRest : Nat → Reader (List Command)
  | 0 => fault .exhausted
  | fuel + 1 => do
    if (← readToken fuel {}).isMark "|" then
      let next ← command fuel .start
      return next :: (← pipeRest fuel)
    else
      putBack
      return []

/-- One command. -/
def command : Nat → Search → Reader Command
  | 0, _ => fault .exhausted
  | fuel + 1, search => do
    let token ← readToken fuel search
    let line := (← get).line
    let close (mark : String) (body : Command) : Reader Command := do
      if !(← readToken fuel {}).isMark mark then unexpected (some ("\"" ++ mark ++ "\""))
      return body
    let redirected (isolated : Bool) (body : Command) : Reader Command := do
      let redirects ← redirectsBehind fuel
      return if isolated || !redirects.isEmpty then .grouped line isolated body redirects else body
    match token with
    | .word _ =>
      putBack
      simpleCommand fuel line
    | .arrow _ _ =>
      putBack
      simpleCommand fuel line
    | .mark "if" =>
      let body ← conditional fuel
      redirected false (← close "fi" body)
    | .mark "while" =>
      let body ← loopRest fuel false
      redirected false (← close "done" body)
    | .mark "until" =>
      let body ← loopRest fuel true
      redirected false (← close "done" body)
    | .mark "for" =>
      let body ← eachRest fuel line
      redirected false (← close "done" body)
    | .mark "case" =>
      let word ← wordHere fuel
      if !(← readToken fuel .start).isMark "in" then unexpected (some "\"in\"")
      let options ← armList fuel
      redirected false (.arms line word options)
    | .mark "(" =>
      let body ← commandList fuel 0
      redirected true (← close ")" body)
    | .mark "\x7b" =>
      let body ← commandList fuel 0
      redirected false (← close "\x7d" body)
    | _ => unexpected none

/-- A word that has to stand here. -/
def wordHere : Nat → Reader Word
  | 0 => fault .exhausted
  | fuel + 1 => do
    match ← readToken fuel {} with
    | .word w => return w
    | _ => unexpected (some "word")

/-- A conditional after `if` or `elif`, up to its end. -/
def conditional : Nat → Reader Command
  | 0 => fault .exhausted
  | fuel + 1 => do
    let condition ← commandList fuel 0
    if !(← readToken fuel {}).isMark "then" then unexpected (some "\"then\"")
    let yes ← commandList fuel 0
    let token ← readToken fuel {}
    if token.isMark "elif" then return .choice condition yes (← conditional fuel)
    else if token.isMark "else" then return .choice condition yes (← commandList fuel 0)
    else
      putBack
      return .choice condition yes .nothing

/-- A loop after its keyword, up to its end. -/
def loopRest : Nat → Bool → Reader Command
  | 0, _ => fault .exhausted
  | fuel + 1, inverted => do
    let condition ← commandList fuel 0
    if !(← readToken fuel {}).isMark "do" then unexpected (some "\"do\"")
    return .loop inverted condition (← commandList fuel 0)

/-- A loop over words after `for`, up to its end. -/
def eachRest : Nat → Nat → Reader Command
  | 0, _ => fault .exhausted
  | fuel + 1, line => do
    let name ←
      match ← readToken fuel {} with
      | .word w => pure ((w.plain?.filter isName).getD [])
      | _ => pure []
    if name.isEmpty then fault .badLoopVariable
    let token ← readToken fuel .start
    let words ←
      if token.isMark "in" then
        let words ← wordsHere fuel
        let recent := (← get).recent
        match recent with
        | .newline => pure ()
        | token => if !token.isMark ";" then unexpected none
        pure (some words)
      else
        if !token.isMark ";" then putBack
        pure none
    if !(← readToken fuel .start).isMark "do" then unexpected (some "\"do\"")
    return .each line name words (← commandList fuel 0)

/-- Words up to another token, which is passed. -/
def wordsHere : Nat → Reader (List Word)
  | 0 => fault .exhausted
  | fuel + 1 => do
    match ← readToken fuel {} with
    | .word w => return w :: (← wordsHere fuel)
    | _ => return []

/-- The arms of a choice by patterns, with the word that ends them. -/
def armList : Nat → Reader (List (List Word × Command))
  | 0 => fault .exhausted
  | fuel + 1 => do
    let token ← readToken fuel ⟨true, true, false⟩
    if token.isMark "esac" then return []
    if token.isMark "(" then
      let _ ← readToken fuel {}
    putBack
    let patterns ← patternList fuel
    let body ← commandList fuel 2
    let token ← readToken fuel ⟨true, true, false⟩
    if token.isMark "esac" then return [(patterns, body)]
    if !token.isMark ";;" then unexpected (some "\";;\"")
    return (patterns, body) :: (← armList fuel)

/-- The patterns of an arm and the parenthesis behind them. -/
def patternList : Nat → Reader (List Word)
  | 0 => fault .exhausted
  | fuel + 1 => do
    let pattern : Word ←
      match ← readToken fuel {} with
      | .word w => pure w
      | .mark text => pure [.literal text.toList false]
      | _ => pure []
    let token ← readToken fuel {}
    if token.isMark "|" then return pattern :: (← patternList fuel)
    if !token.isMark ")" then unexpected (some "\")\"")
    return [pattern]

/-- The redirections behind a command. -/
def redirectsBehind : Nat → Reader (List Redirect)
  | 0 => fault .exhausted
  | fuel + 1 => do
    match ← readToken fuel .here with
    | .arrow descriptor kind =>
      let r ← target fuel descriptor kind
      return r :: (← redirectsBehind fuel)
    | _ =>
      putBack
      return []

/-- What a redirection leads to. -/
def target : Nat → Nat → Arrow → Reader Redirect
  | 0, _, _ => fault .exhausted
  | fuel + 1, descriptor, kind => do
    let isText := match kind with | .text _ => true | _ => false
    let token ← if isText then plainToken fuel .last else readToken fuel {}
    modify fun c => { c with recent := token }
    match token with
    | .word w =>
      match kind with
      | .output opening => return .toFile descriptor opening w
      | .input => return .fromFile descriptor w
      | .copy => return .copy descriptor w
      | .text strip =>
        let c ← get
        let waiting : Waiting := ⟨c.count, w.text, w.isQuoted, strip⟩
        set { c with waiting := c.waiting ++ [waiting], count := c.count + 1 }
        return .fromText descriptor c.count
    | _ => unexpected none

/-- A command made of words and redirections, or the definition of a function. -/
def simpleCommand : Nat → Nat → Reader Command
  | 0, _ => fault .exhausted
  | fuel + 1, line => simpleRest fuel line [] [] []

/-- The rest of a command, whose assignments, words and redirections so far are given in reverse. -/
def simpleRest : Nat → Nat → List (Octets × Word) → List Word → List Redirect → Reader Command
  | 0, _, _, _, _ => fault .exhausted
  | fuel + 1, line, assignments, words, redirects => do
    let token ← readToken fuel ⟨false, false, words.isEmpty⟩
    match token with
    | .word w =>
      match words.isEmpty, w.assignment? with
      | true, some a => simpleRest fuel line (a :: assignments) words redirects
      | _, _ => simpleRest fuel line assignments (w :: words) redirects
    | .arrow descriptor kind =>
      let r ← target fuel descriptor kind
      simpleRest fuel line assignments words (r :: redirects)
    | token =>
      match token.isMark "(", assignments, words, redirects with
      | true, [], [w], [] =>
        if !(← readToken fuel {}).isMark ")" then unexpected (some "\")\"")
        match w.plain?.filter (isFunctionName specialNames) with
        | some name => return .define name (← command fuel .start)
        | none => fault .badFunctionName
      | _, _, _, _ =>
        putBack
        return .simple line assignments.reverse words.reverse redirects.reverse

end

/-- The fuel that reading a text may need. -/
def readingFuel (s : Octets) : Nat := 16 * s.length + 256

/-- The next complete command of a script; none if the script ends before one. -/
def nextCommand : Reader (Option Command) := do
  let c ← get
  let body ← commandList (readingFuel (c.rest ++ c.aliases.flatMap Prod.snd)) 1
  let now ← get
  match body, now.ahead with
  | .nothing, some .endOfFile => return none
  | body, some .endOfFile =>
    set { now with ahead := none }
    return some body
  | body, _ => return some body

end LintBridge.Shell
