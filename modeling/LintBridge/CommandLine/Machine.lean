/-
# What commands work with

* `Machine`: what a command needs of its surroundings.
* `Disk.machine`: a disk as such surroundings.
* `CommandResult`: what a command leaves behind.
* `Machine.loadSettings`: the settings that a command uses.
-/
import LintBridge.Session
import LintBridge.Settings.Document
import LintBridge.Shell.Process
import LintBridge.Text.Wrapped

namespace LintBridge

/-- What a command needs of its surroundings, whose state has the type `σ`. -/
structure Machine (σ : Type) where
  /-- The current directory, or the reason why it is unknown. -/
  workingDirectory : σ → Except String Path
  /-- Whether a path leads to a file. -/
  isFile : σ → Path → Bool
  /-- The text of a file. -/
  readText : σ → Path → Except DiskError String
  /-- Make a file where nothing stands. -/
  create : σ → Path → String → Except DiskError σ
  /-- Remove a file or a link. -/
  remove : σ → Path → Except DiskError σ
  /-- Run the lint tool. -/
  run : Invocation → σ → Except Failure RunResult × σ

/-- A disk with the programs on it. -/
def Disk.machine : Machine Disk where
  workingDirectory d := .ok d.workingDirectory
  isFile := Disk.isFile
  readText := Disk.readText
  create d p text := d.create p (Octets.ofString text)
  remove := Disk.remove
  run := Disk.spawn

/-- How urgent a message about the work is. -/
inductive Urgency where
  | info
  | warning
  | error
deriving DecidableEq, Repr

/-- A message about the work. -/
structure Message where
  /-- How urgent it is. -/
  urgency : Urgency
  /-- What it says. -/
  text : String
deriving DecidableEq, Repr

/-- A character as the log shows it: one that would steer a terminal stands there as its code. -/
def logChar (c : Char) : List Char :=
  match c with
  | '\x07' => ['\\', 'x', '0', '7']
  | '\x08' => ['\\', 'x', '0', '8']
  | '\x0c' => ['\\', 'x', '0', 'c']
  | '\x1b' => ['\\', 'x', '1', 'b']
  | '\x7f' => ['\\', 'x', '7', 'f']
  | c =>
    if 0x80 ≤ c.toNat ∧ c.toNat ≤ 0x9f then
      ['\\', 'u', '\x7b'] ++ Nat.toDigits 16 c.toNat ++ ['\x7d']
    else [c]

/-- A line of the log. -/
def Message.line (m : Message) : String :=
  let level := match m.urgency with
    | .info => " INFO "
    | .warning => " WARN "
    | .error => "ERROR "
  level ++ String.ofList (m.text.toList.flatMap logChar)

/-- The message for a note of a session. -/
def Note.message (n : Note) : Message :=
  match n with
  | .usingConfig _ _ => ⟨.info, n.text⟩
  | .fixing _ => ⟨.info, n.text⟩
  | _ => ⟨.warning, n.text⟩

/-- What a command leaves behind. -/
structure CommandResult (σ : Type) where
  /-- The exit code: 0, or 1 if an error was reported, or 2 if the command failed. -/
  code : Nat
  /-- What was printed. -/
  stdout : String
  /-- What was said about the work. -/
  log : List Message
  /-- The surroundings afterwards. -/
  world : σ

namespace CommandResult

/-- How many columns of a line the reason for a failure takes. -/
def reasonColumns : Nat := 74

/-- The reason for a failure in lines that fit, with a mark in front of each. -/
def reasonText (reason : String) : String :=
  match Text.wrap reasonColumns reason with
  | [] => ""
  | first :: rest => rest.foldl (fun text line => text ++ "\n  | " ++ line) ("  x " ++ first)

/-- A command that failed. -/
def failed {σ : Type} (log : List Message) (reason : String) (w : σ) : CommandResult σ :=
  ⟨2, "", log ++ [⟨.error, reasonText reason⟩], w⟩

end CommandResult

/-- What loading the settings leads to. -/
structure Loaded where
  /-- The settings, or the reason why there are none. -/
  result : Except String Settings
  /-- What was said about it. -/
  log : List Message

namespace Settings

/-- The nearest settings file. -/
def discover (isFile : Path → Bool) (dir : Path) : Option Path := searchUp isFile dir fileNames

/-- The settings in a file. -/
def ofFile (readText : Path → Except DiskError String) (p : Path) : Except Failure Settings :=
  match readText p with
  | .error e => .error (.settings ("Failed to read " ++ p.text ++ ": " ++ e.message))
  | .ok text => ofText text

end Settings

namespace Machine

variable {σ : Type}

/-- The surroundings of a session whose publications are always taken. -/
def host (m : Machine σ) : Host σ where
  workingDirectory := m.workingDirectory
  isFile := m.isFile
  run := m.run
  publish _ w := (none, w)

/-- The settings in the given file, or else in the nearest settings file, or else the defaults. -/
def loadSettings (m : Machine σ) (config : Option Path) (w : σ) : Loaded :=
  let settings (p : Path) := (Settings.ofFile (m.readText w) p).mapError Failure.message
  match config with
  | some p => ⟨settings p, []⟩
  | none =>
    match m.workingDirectory w with
    | .error reason => ⟨.error reason, []⟩
    | .ok here =>
      match Settings.discover (m.isFile w) here with
      | some p => ⟨settings p, [⟨.info, "Using settings: " ++ p.text⟩]⟩
      | none => ⟨.ok {}, []⟩

end Machine

end LintBridge
