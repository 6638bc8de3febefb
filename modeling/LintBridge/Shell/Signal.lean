/-
# Signals

* `Signal.number?`: the signal with a name or number.
* `Signal.names`: their names.
* `Signal.farewell?`: what is told of a process that was ended by a signal.
-/
import LintBridge.Shell.Numeral

namespace LintBridge.Shell.Signal

/-- The signals with names of their own, from 1 on, and what is told of a process that one of them
ended. -/
def table : List (String × String) := [
  ("HUP", "Hangup"), ("INT", "Interrupt"), ("QUIT", "Quit"), ("ILL", "Illegal instruction"),
  ("TRAP", "Trace/breakpoint trap"), ("ABRT", "Aborted"), ("BUS", "Bus error"),
  ("FPE", "Floating point exception"), ("KILL", "Killed"), ("USR1", "User defined signal 1"),
  ("SEGV", "Segmentation fault"), ("USR2", "User defined signal 2"), ("PIPE", "Broken pipe"),
  ("ALRM", "Alarm clock"), ("TERM", "Terminated"), ("16", "Stack fault"), ("CHLD", "Child exited"),
  ("CONT", "Continued"), ("STOP", "Stopped (signal)"), ("TSTP", "Stopped"),
  ("TTIN", "Stopped (tty input)"), ("TTOU", "Stopped (tty output)"),
  ("URG", "Urgent I/O condition"), ("XCPU", "CPU time limit exceeded"),
  ("XFSZ", "File size limit exceeded"), ("VTALRM", "Virtual timer expired"),
  ("PROF", "Profiling timer expired"), ("WINCH", "Window changed"), ("IO", "I/O possible"),
  ("PWR", "Power failure"), ("SYS", "Bad system call")]

/-- The names of the signals that have no fixed meaning. -/
def laterNames : List String :=
  ["32", "33", "RTMIN"] ++ (List.range 15).map (fun n => "RTMIN+" ++ toString (n + 1)) ++
    (List.range 14).map (fun n => "RTMAX-" ++ toString (14 - n)) ++ ["RTMAX"]

/-- The names of all signals; the end of the script counts as the signal 0. -/
def names : List String := "EXIT" :: table.map Prod.fst ++ laterNames

/-- The signal with the given name or number. -/
def number? (a : Octets) : Option Nat :=
  match Numeral.natural? a with
  | some n => if n < names.length then some n else none
  | none => names.findIdx? fun name => name.toList = a.map Char.toUpper

/-- The signal that ends a process which reads or writes outside of its memory. -/
def badAccess : Nat := 11

/-- Whether nothing happens to a process at a signal that it has made no plans for. -/
def isHarmless (n : Nat) : Bool := [0, 17, 18, 23, 28].contains n

/-- What is told of a process that was ended by a signal; nothing if that is usual. -/
def farewell? (n : Nat) : Option String :=
  if n = 2 || n = 13 then none
  else
    match n with
    | 0 => none
    | k + 1 => some ((table[k]?.map Prod.snd).getD ("Real-time signal " ++ toString (n - 34)))

end LintBridge.Shell.Signal
