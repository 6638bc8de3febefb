/-
# Expansion of words

What the words of a command turn into: parameters take their values, commands inside of words their
output and expressions their results; the words are then cut into fields, and fields with patterns
are replaced by the paths that match.

* `Shell.expandParts`: the glyphs of a word.
* `Shell.expandText`, `Shell.expandFields`: the text and the fields of a word.
-/
import LintBridge.Shell.Arithmetic
import LintBridge.Shell.Fields
import LintBridge.Shell.Pathnames

namespace LintBridge.Shell

/-- How the output of a command is taken: the output and the state afterwards. -/
abbrev Capture := Command → State → Octets × State

/-! ## Home directories -/

/-- The home directories of users by their names; the one who runs the script has no name. -/
abbrev Homes := Octets → Option Octets

/-- The text with a tilde at the front and the name behind it replaced, up to a character that ends
the name; `last` tells whether the word ends with the text. -/
def tildeAt (homes : Homes) (assigning last : Bool) : Octets → Word
  | '~' :: rest =>
    let ends (c : Char) : Bool := c = '/' || (assigning && c = ':')
    let after := rest.dropWhile (!ends ·)
    match homes (rest.takeWhile (!ends ·)) with
    | none => [.literal ('~' :: rest) false]
    | some home =>
      if !after.isEmpty then [.literal home true, .literal after false]
      else if last then [.literal home true]
      else [.literal ('~' :: rest) false]
  | text => [.literal text false]

/-- The stretches of a text, each of which ends behind a colon. -/
def colonStretches : Octets → List Octets
  | [] => []
  | c :: s =>
    if c = ':' then [c] :: colonStretches s
    else
      match colonStretches s with
      | [] => [[c]]
      | t :: ts => (c :: t) :: ts

/-- A stretch with a tilde at its front replaced; the colon at its end ends a tilde as well. -/
def tildeStretches (homes : Homes) (last : Bool) : List Octets → Word
  | [] => []
  | [t] => tildeAt homes true last t
  | t :: ts => tildeAt homes true false t ++ tildeStretches homes last ts

mutual

/-- A part of a word with the tildes in its operand replaced. -/
def Part.withHome (homes : Homes) : Part → Part
  | .parameter name use operand false =>
    .parameter name use (Part.listWithHome homes false true operand) false
  | part => part

/-- The parts of a word with the tildes replaced by home directories: at the front, and in an
assignment behind every colon. -/
def Part.listWithHome (homes : Homes) (assigning first : Bool) : List Part → List Part
  | [] => []
  | .literal text false :: rest =>
    let here : Word :=
      if assigning then
        match colonStretches text, first with
        | t :: ts, false => .literal t false :: tildeStretches homes rest.isEmpty ts
        | ts, _ => tildeStretches homes rest.isEmpty ts
      else if first then tildeAt homes false rest.isEmpty text
      else [.literal text false]
    here ++ Part.listWithHome homes assigning false rest
  | part :: rest => part.withHome homes :: Part.listWithHome homes assigning false rest

end

/-- A word with its tildes replaced. -/
def Word.withHome (homes : Homes) (assigning : Bool) (w : Word) : Word :=
  Part.listWithHome homes assigning true w

/-- The home directory of a user; only that of the first user is known by name. -/
def State.home? (s : State) : Homes
  | [] => s.valueOf? (Octets.ofString "HOME")
  | name => if name = Octets.ofString "root" then some (Octets.ofString "/root") else none

/-! ## Parameters -/

/-- Whether a parameter stands for all arguments. -/
def isArguments (name : Octets) : Bool := name = ['@'] || name = ['*']

/-- The arguments put together. -/
def State.joined (s : State) : Octets := s.joint.intercalate s.arguments

/-- The value of a parameter; that of all arguments is put together. -/
def State.parameter? (s : State) (name : Octets) : Option Octets :=
  if isArguments name then some s.joined else s.value? name

/-- The glyphs of arguments with a place between any two. -/
def argumentGlyphs (between : Glyph) (glyphs : Octets → List Glyph) : List Octets → List Glyph
  | [] => []
  | [a] => glyphs a
  | a :: as => glyphs a ++ between :: argumentGlyphs between glyphs as

/-- The glyphs of the value of a parameter; `full` tells whether they will be cut into fields. -/
def State.valueGlyphs (s : State) (name value : Octets) (full quoted : Bool) : List Glyph :=
  if !full || !isArguments name then Glyph.expanded value quoted
  else if !quoted then
    .opening false :: argumentGlyphs .joint (List.map Glyph.loose) s.arguments
  else if name = ['@'] then
    if s.arguments.isEmpty then []
    else .opening true :: argumentGlyphs .seam (fun a => Glyph.chars a true) s.arguments
  else Glyph.expanded value quoted

/-- The state after a variable was set by an expansion, which ends the script if it cannot be. -/
def State.assigned (s : State) (name value : Octets) : State :=
  match s.set? name value with
  | .ok s => s
  | .error e => s.condemn e

/-- What an expansion finds missing, and the state in which the script has to end. -/
def State.missing (s : State) (name : Octets) (reason : String) : State :=
  s.condemn (Octets.decode name ++ ": " ++ reason)

/-- A text without the line feeds at its end and without zero bytes. -/
def outputText (s : Octets) : Octets :=
  ((s.reverse.dropWhile (· = '\n')).reverse).filter (· ≠ '\x00')

/-- The glyphs of a text of the script. -/
def literalGlyphs (text : Octets) (quoted loose : Bool) : List Glyph :=
  if quoted then if text.isEmpty then [.mark] else Glyph.chars text true
  else if loose then Glyph.expanded text false
  else Glyph.chars text false

mutual

/-- The glyphs of a part of a word.  `full` tells whether they will be cut into fields, and `loose`
whether that goes for what stands in the script itself, too. -/
def expandPart (capture : Capture) (full loose : Bool) : Part → State → List Glyph × State
  | .literal text quoted, s => (literalGlyphs text quoted loose, s)
  | .output body quoted, s =>
    let (text, s) := capture body s
    (Glyph.expanded (outputText text) quoted, s)
  | .arithmetic expression quoted, s =>
    let (gs, s) := expandParts capture false false expression s
    let text := textOf gs
    if s.doomed then ([], s)
    else
      match calculate s text with
      | .ok (n, s) => (Glyph.expanded (Numeral.text n) quoted, s)
      | .error e => ([], s.condemn (e.message text))
  | .parameter name use operand quoted, s =>
    let value := s.parameter? name
    let demanded := s.has 'u' && value.isNone
    let given (colon : Bool) : Option Octets :=
      if colon then value.filter (!·.isEmpty) else value
    let plain (v : Octets) : List Glyph := s.valueGlyphs name v full quoted
    match use with
    | .malformed => ([], s.condemn "Bad substitution")
    | .plain =>
      if demanded then ([], s.missing name "parameter not set") else (plain (value.getD []), s)
    | .length =>
      if demanded then ([], s.missing name "parameter not set")
      else (Glyph.expanded (Nat.toDigits 10 (value.getD []).length) quoted, s)
    | .orElse colon =>
      match given colon with
      | some v => (plain v, s)
      | none => expandParts capture full (full && !quoted) operand s
    | .instead colon =>
      match given colon with
      | some _ => expandParts capture full (full && !quoted) operand s
      | none => ([], s)
    | .assign colon =>
      match given colon with
      | some v => (plain v, s)
      | none =>
        let (gs, s) := expandParts capture false false operand s
        let text := textOf gs
        if s.doomed then ([], s) else (Glyph.expanded text quoted, s.assigned name text)
    | .demand colon =>
      match given colon with
      | some v => (plain v, s)
      | none =>
        let (gs, s) := expandParts capture false false operand s
        let reason := if colon then "parameter not set or null" else "parameter not set"
        ([], s.missing name (if operand.isEmpty then reason else Octets.decode (textOf gs)))
    | .dropFront longest =>
      let (gs, s) := expandParts capture false false operand s
      if demanded then ([], s.missing name "parameter not set")
      else (Glyph.expanded (Glob.dropFront longest (patternOf gs) (value.getD [])) quoted, s)
    | .dropBack longest =>
      let (gs, s) := expandParts capture false false operand s
      if demanded then ([], s.missing name "parameter not set")
      else (Glyph.expanded (Glob.dropBack longest (patternOf gs) (value.getD [])) quoted, s)

/-- The glyphs of parts of a word, up to one that ends the script. -/
def expandParts (capture : Capture) (full loose : Bool) :
    List Part → State → List Glyph × State
  | [], s => ([], s)
  | part :: rest, s =>
    if s.doomed then ([], s)
    else
      let (gs, s) := expandPart capture full loose part s
      let (more, s) := expandParts capture full loose rest s
      (gs ++ more, s)

end

/-- The glyphs of a word that is not cut into fields. -/
def expandWord (capture : Capture) (assigning : Bool) (w : Word) (s : State) :
    List Glyph × State :=
  expandParts capture false false (Word.withHome s.home? assigning w) s

/-- The text of a word that is not cut into fields. -/
def expandText (capture : Capture) (assigning : Bool) (w : Word) (s : State) : Octets × State :=
  let (gs, s) := expandWord capture assigning w s
  (textOf gs, s)

/-- The fields of a word. -/
def expandFields (capture : Capture) (w : Word) (s : State) : List Octets × State :=
  let (gs, s) := expandParts capture true false (Word.withHome s.home? false w) s
  if s.doomed then ([], s)
  else
    let fields := (cutFields s.separators none gs).map markedOf
    (if s.has 'f' then fields.map Marked.text else fields.flatMap (pathsFor s.view), s)

/-- The fields of words. -/
def expandAll (capture : Capture) (ws : List Word) (s : State) : List Octets × State :=
  ws.foldl (fun (found, s) w =>
    let (fields, s) := expandFields capture w s
    (found ++ fields, s)) ([], s)

/-- Whether one of the patterns matches a text. -/
def matchesAny (capture : Capture) (text : Octets) : List Word → State → Bool × State
  | [], s => (false, s)
  | w :: ws, s =>
    let (gs, s) := expandWord capture false w s
    if s.doomed then (false, s)
    else if Glob.accepts (patternOf gs) text then (true, s)
    else matchesAny capture text ws s

end LintBridge.Shell
