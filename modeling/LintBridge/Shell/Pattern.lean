/-
# Patterns

A pattern of the shell, in which a star stands for any text, a question mark for one character and
brackets for one of several; quoted characters stand for themselves.

* `Glob.ofMarked`: the pattern that is written down.
* `Glob.accepts`: what it stands for.
* `Glob.dropFront`, `Glob.dropBack`: a text without what a pattern stands for.
-/
import LintBridge.Shell.Numeral

namespace LintBridge.Shell

/-- One of the things between brackets. -/
inductive Choice where
  /-- The characters from one to another. -/
  | range (first last : Char)
  /-- The characters of a kind. -/
  | kind (member : Char → Bool)

/-- A part of a pattern. -/
inductive Glob where
  /-- The character itself. -/
  | exactly (c : Char)
  /-- One character. -/
  | single
  /-- Any text. -/
  | anything
  /-- One character among the choices, or among none of them. -/
  | among (negated : Bool) (choices : List Choice)

/-- A text whose quoted characters are marked. -/
abbrev Marked := List (Char × Bool)

/-- The text itself. -/
def Marked.text (s : Marked) : Octets := s.map Prod.fst

/-- The place of a byte in the order of characters, in which those beyond the first half come
first. -/
def byteOrder (c : Char) : Int := if c.toNat < 128 then c.toNat else (c.toNat : Int) - 256

/-- Whether a character is one of the choice. -/
def Choice.accepts (c : Char) : Choice → Bool
  | range a b => byteOrder a ≤ byteOrder c && byteOrder c ≤ byteOrder b
  | kind member => member c

/-- Whether a character can be seen and is neither a letter nor a digit. -/
def isPunctuation (c : Char) : Bool := '!' ≤ c && c ≤ '~' && !c.isAlphanum

/-- The kinds of characters by their names. -/
def characterKinds : List (String × (Char → Bool)) := [
  ("alnum", Char.isAlphanum),
  ("alpha", Char.isAlpha),
  ("blank", fun c => c = ' ' || c = '\t'),
  ("cntrl", fun c => c.toNat < 32 || c.toNat = 127),
  ("digit", Char.isDigit),
  ("graph", fun c => '!' ≤ c && c ≤ '~'),
  ("lower", Char.isLower),
  ("print", fun c => ' ' ≤ c && c ≤ '~'),
  ("punct", isPunctuation),
  ("space", Numeral.isSpace),
  ("upper", Char.isUpper),
  ("xdigit", Numeral.isDigit 16)]

namespace Glob

/-- The kind of characters whose name starts here behind an opening bracket, and what follows. -/
def kind? (s : Marked) : Option ((Char → Bool) × Marked) :=
  characterKinds.findSome? fun k =>
    let spelled : Marked := (":" ++ k.1 ++ ":]").toList.map fun c => (c, false)
    if spelled.isPrefixOf s then some (k.2, s.drop spelled.length) else none

/-- The character at the front, from which a backslash takes its meaning, and what follows. -/
def literal? : Marked → Option (Char × Marked)
  | ('\\', false) :: (c, _) :: rest => some (c, rest)
  | (c, _) :: rest => some (c, rest)
  | [] => none

/-- The choices between brackets up to the closing one, and what follows it.  A closing bracket at
the very front is one of the characters. -/
def choicesWithin : Nat → Bool → Marked → Option (List Choice × Marked)
  | 0, _, _ => none
  | fuel + 1, first, s =>
    if !first && s.head? = some (']', false) then some ([], s.drop 1)
    else
      let named := if s.head? = some ('[', false) then kind? (s.drop 1) else none
      match named, literal? s with
      | some (member, rest), _ =>
        (choicesWithin fuel false rest).map fun r => (.kind member :: r.1, r.2)
      | none, none => none
      | none, some (a, rest) =>
        let last? :=
          if rest.head? = some ('-', false) && rest[1]? ≠ some (']', false) then
            literal? (rest.drop 1)
          else none
        match last? with
        | some (b, rest) =>
          (choicesWithin fuel false rest).map fun r => (.range a b :: r.1, r.2)
        | none => (choicesWithin fuel false rest).map fun r => (.range a a :: r.1, r.2)

/-- The part for an opening bracket before the given text, and the text after it. -/
def bracket (s : Marked) : Glob × Marked :=
  let negated := s.head? = some ('!', false)
  match choicesWithin (s.length + 1) true (if negated then s.drop 1 else s) with
  | some (choices, rest) => (among negated choices, rest)
  | none => (exactly '[', s)

/-- The parts of a pattern, at most as many as the budget has characters. -/
def partsWithin : Marked → Marked → List Glob
  | _ :: budget, (c, quoted) :: rest =>
    if quoted then exactly c :: partsWithin budget rest
    else
      match c with
      | '*' => anything :: partsWithin budget rest
      | '?' => single :: partsWithin budget rest
      | '[' =>
        let (g, rest) := bracket rest
        g :: partsWithin budget rest
      | '\\' =>
        match rest with
        | (x, _) :: rest => exactly x :: partsWithin budget rest
        | [] => [exactly '\\']
      | c => exactly c :: partsWithin budget rest
  | _, _ => []

/-- The parts of a pattern. -/
def ofMarked (s : Marked) : List Glob := partsWithin s s

/-- The text and what is left of it when characters are taken off its front. -/
def tails : Octets → List Octets
  | [] => [[]]
  | c :: s => (c :: s) :: tails s

/-- Whether a pattern stands for a whole text. -/
def accepts : List Glob → Octets → Bool
  | [], s => s.isEmpty
  | exactly c :: gs, s =>
    match s with
    | x :: s => x = c && accepts gs s
    | [] => false
  | single :: gs, s =>
    match s with
    | _ :: s => accepts gs s
    | [] => false
  | among negated choices :: gs, s =>
    match s with
    | x :: s => (choices.any (·.accepts x)) != negated && accepts gs s
    | [] => false
  | anything :: gs, s => (tails s).any fun t => accepts gs t

/-- The text and its beginnings with what follows each, the shortest first. -/
def splits : Octets → List (Octets × Octets)
  | [] => [([], [])]
  | c :: s => ([], c :: s) :: (splits s).map fun r => (c :: r.1, r.2)

/-- The text without what a pattern stands for at its front. -/
def dropFront (longest : Bool) (gs : List Glob) (s : Octets) : Octets :=
  let cuts := (splits s).filter fun r => accepts gs r.1
  match if longest then cuts.getLast? else cuts.head? with
  | some r => r.2
  | none => s

/-- The text without what a pattern stands for at its back. -/
def dropBack (longest : Bool) (gs : List Glob) (s : Octets) : Octets :=
  let cuts := (splits s).filter fun r => accepts gs r.2
  match if longest then cuts.head? else cuts.getLast? with
  | some r => r.1
  | none => s

/-! ## Names of files -/

/-- Whether a bracket is closed behind the given text of a path segment. -/
def closes : Nat → Marked → Bool
  | 0, _ => false
  | fuel + 1, s =>
    match literal? s with
    | none => false
    | some (_, rest) => rest.head? = some (']', false) || closes fuel rest

/-- Whether a segment of a path is a pattern, and not just a name. -/
def isPattern : Marked → Bool
  | [] => false
  | ('*', false) :: _ => true
  | ('?', false) :: _ => true
  | ('[', false) :: rest =>
    let inner := if rest.head? = some ('!', false) then rest.drop 1 else rest
    closes (inner.length + 1) inner || isPattern rest
  | ('\\', false) :: _ :: rest => isPattern rest
  | _ :: rest => isPattern rest

/-- The name that a segment without patterns spells. -/
def plainName : Marked → Octets
  | ('\\', false) :: (c, _) :: rest => c :: plainName rest
  | (c, _) :: rest => c :: plainName rest
  | [] => []

end Glob

end LintBridge.Shell
