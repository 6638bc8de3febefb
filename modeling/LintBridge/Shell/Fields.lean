/-
# Fields

A word that has been expanded is cut into fields.  Only what came out of an expansion that is not
quoted is cut, at the characters that divide fields: blank space among them counts as often as it
stands in a row only once, every other one ends a field of its own.

* `Glyph`: what an expanded word is made of.
* `Shell.cutFields`: the fields of a word.
-/
import LintBridge.Shell.Pattern

namespace LintBridge.Shell

/-- What an expanded word is made of. -/
inductive Glyph where
  /-- A character that divides nothing. -/
  | char (c : Char) (quoted : Bool)
  /-- A character that may divide fields. -/
  | loose (c : Char)
  /-- The place between two arguments that are not quoted. -/
  | joint
  /-- The place between two arguments that are quoted. -/
  | seam
  /-- A quotation mark: a field with one is a field even if it is empty. -/
  | mark
  /-- The start of what an expansion gave, perhaps of arguments that are quoted. -/
  | opening (seamed : Bool)
deriving DecidableEq, Repr

namespace Glyph

/-- The characters of a text. -/
def chars (text : Octets) (quoted : Bool) : List Glyph := text.map fun c => char c quoted

/-- What an expansion gave, which is cut unless it is quoted. -/
def expanded (text : Octets) (quoted : Bool) : List Glyph :=
  if quoted then chars text true else opening false :: text.map loose

/-- The character of a glyph, and whether it is quoted. -/
def marked? : Glyph → Option (Char × Bool)
  | char c quoted => some (c, quoted)
  | loose c => some (c, false)
  | _ => none

end Glyph

/-- The characters of glyphs with their quoting. -/
def markedOf (gs : List Glyph) : Marked := gs.filterMap Glyph.marked?

/-- The text of glyphs. -/
def textOf (gs : List Glyph) : Octets := (markedOf gs).text

/-- The pattern of glyphs. -/
def patternOf (gs : List Glyph) : List Glob := Glob.ofMarked (markedOf gs)

/-- What has been cut so far. -/
structure Cutting where
  /-- The fields, the last one first. -/
  done : List (List Glyph) := []
  /-- The field under way, its last glyph first. -/
  current : List Glyph := []
  /-- What the last field is if nothing but dividing characters follows. -/
  kept : Option (List Glyph) := none
  /-- How many fields may still follow; the last one takes all that is left. -/
  room : Option Nat
  /-- Whether blank space has just ended a field. -/
  blank : Bool := false
  /-- Whether the expansion under way is that of quoted arguments. -/
  seamed : Bool := false
  /-- Whether the expansion before was that of quoted arguments. -/
  seamedBefore : Bool := false

namespace Cutting

/-- A glyph that divides fields if `divides` is true, as blank space does if `space` is. -/
def step (divides space : Bool) (g : Glyph) (c : Cutting) : Cutting :=
  if c.room = some 0 then
    let grown := { c with current := g :: c.current }
    if space then { grown with kept := c.kept.or (some c.current) }
    else { grown with kept := if divides && c.blank then c.kept else none, blank := false }
  else if c.blank then
    { c with current := if divides then [] else [g], blank := space }
  else if divides then
    let blank := space && !c.seamed && !c.seamedBefore
    if c.current.isEmpty && blank then c
    else if c.room = some 1 then
      { c with
        room := some 0
        kept := some c.current
        current := g :: c.current
        blank := blank }
    else
      { c with
        done := c.current.reverse :: c.done
        current := []
        room := c.room.map (· - 1)
        blank := blank }
  else { c with current := g :: c.current, blank := false }

/-- What one glyph adds. -/
def add (separators : Octets) (c : Cutting) (g : Glyph) : Cutting :=
  match g with
  | .opening seamed => { c with blank := false, seamed := seamed, seamedBefore := c.seamed }
  | .loose x =>
    let divides := separators.contains x
    c.step divides (divides && [' ', '\t', '\n'].contains x) g
  | .joint => c.step true true g
  | .seam => c.step true true g
  | g => { c with current := g :: c.current }

/-- The fields at the end. -/
def finish (c : Cutting) : List (List Glyph) :=
  if c.seamed then (c.current.reverse :: c.done).reverse
  else
    let last := (c.kept.getD c.current).reverse
    (if last.isEmpty then c.done else last :: c.done).reverse

end Cutting

/-- The fields of a word, at most as many as there is room for. -/
def cutFields (separators : Octets) (room : Option Nat) (gs : List Glyph) : List (List Glyph) :=
  (gs.foldl (Cutting.add separators) { room := room }).finish

end LintBridge.Shell
