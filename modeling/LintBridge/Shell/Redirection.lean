/-
# Redirections

* `Shell.redirect`: let descriptors of a command stand for files, texts or other descriptors.
-/
import LintBridge.Shell.Expansion

namespace LintBridge.Shell

/-- The descriptor whose file a path of the system stands for, or none for the file that swallows
everything. -/
def systemFile? (path : Octets) : Option (Option Nat) :=
  match String.ofList path with
  | "/dev/null" => some none
  | "/dev/stdin" => some (some 0)
  | "/dev/stdout" => some (some 1)
  | "/dev/stderr" => some (some 2)
  | _ =>
    let start := Octets.ofString "/dev/fd/"
    if start.isPrefixOf path then (Numeral.natural? (path.drop start.length)).map some else none

/-- Why a file cannot be opened; a file that is missing has the given reason. -/
def openingReason (missing : String) : DiskError → String
  | .notFound => missing
  | .notDirectory => missing
  | e => e.reason

/-- Open a file for reading. -/
def State.openSource (s : State) (descriptor : Nat) (path : Octets) : Bool × State :=
  match systemFile? path, s.view.stat (State.path path) with
  | some none, _ => (true, s.openFile descriptor { target := .void })
  | some (some n), _ =>
    match s.file? n with
    | some (index, _) => (true, s.attach descriptor index)
    | none => (false, s.blame ("cannot open " ++ Octets.decode path ++ ": No such file"))
  | none, .ok (l, _) => (true, s.openFile descriptor { target := .file l, writable := false })
  | none, .error e =>
    (false, s.blame ("cannot open " ++ Octets.decode path ++ ": " ++
      openingReason "No such file" e))

/-- Open a file for writing. -/
def State.openTarget (s : State) (descriptor : Nat) (opening : Opening) (path : Octets) :
    Bool × State :=
  let refuse (reason : String) : Bool × State :=
    (false, s.blame ("cannot create " ++ Octets.decode path ++ ": " ++ reason))
  let opened (d : Disk) (l : Location) : Bool × State :=
    (true, { s with disk := { d with current := s.disk.current } }.openFile descriptor {
      target := .file l
      appends := opening == Opening.append
      readable := opening == Opening.update })
  let empties := opening == Opening.truncate || opening == Opening.clobber
  match systemFile? path, s.view.resolve false (State.path path) with
  | some none, _ => (true, s.openFile descriptor { target := .void })
  | some (some n), _ =>
    match s.file? n with
    | some (index, _) => (true, s.attach descriptor index)
    | none => refuse "Directory nonexistent"
  | none, .error e => refuse (openingReason "Directory nonexistent" e)
  | none, .ok (.missing l) => opened (s.disk.put l (.file [] false)) l
  | none, .ok (.found l) =>
    match s.disk.node? l with
    | some (.file _ executable) =>
      if opening == Opening.truncate && s.has 'C' then refuse "File exists"
      else if empties then opened (s.disk.put l (.file [] executable)) l
      else opened s.disk l
    | _ => refuse "Is a directory"

/-- Let a descriptor stand for what another one stands for, or for nothing. -/
def State.copyDescriptor (s : State) (descriptor : Nat) (source : Octets) : Bool × State :=
  match source with
  | ['-'] => (true, s.detach descriptor)
  | [d] =>
    if d.isDigit then
      match s.file? (Numeral.digit d) with
      | some (index, _) => (true, s.attach descriptor index)
      | none => (false, s.blame (String.singleton d ++ ": Bad file descriptor"))
    else unknown
  | _ => unknown
where
  /-- The script ends because there is no such descriptor. -/
  unknown : Bool × State :=
    let text := "Syntax error: " ++ SyntaxError.badDescriptor.message
    (false, { s.blameLine s.lineRead text with doomed := true })

/-- The number of the descriptor that a redirection changes. -/
def Redirect.descriptor : Redirect → Nat
  | .toFile n _ _ => n
  | .fromFile n _ => n
  | .copy n _ => n
  | .fromText n _ => n

/-- Redirect what a command reads and writes, as far as that is possible. -/
def redirect (capture : Capture) : List Redirect → State → Bool × State
  | [], s => (true, s)
  | r :: rest, s =>
    let (word, act) : Word × (Octets → State → Bool × State) :=
      match r with
      | .toFile n opening w => (w, fun path s => s.openTarget n opening path)
      | .fromFile n w => (w, fun path s => s.openSource n path)
      | .copy n w => (w, fun source s => s.copyDescriptor n source)
      | .fromText n text =>
        ((s.texts.lookup text).getD [],
          fun content s => (true, s.openFile n { target := .supply content, writable := false }))
    let (text, s) := expandText capture false word s
    if s.doomed then (false, s)
    else
      match act text s with
      | (true, s) => redirect capture rest s
      | refused => refused

end LintBridge.Shell
