import ThemedShell.CommandLanguage.Syntax

/-!
# The command language: signals

A signal has a number, a name, and the text that is shown when it has ended a process.
-/
namespace ThemedShell.CommandLanguage

open Text (Octets)

structure Signal where
  number : Nat
  name : String
  description : String
deriving Repr, DecidableEq

namespace Signal

/-- All signals that have names. -/
def all : List Signal := [
  ⟨1, "HUP", "Hangup"⟩,
  ⟨2, "INT", "Interrupt"⟩,
  ⟨3, "QUIT", "Quit"⟩,
  ⟨4, "ILL", "Illegal instruction"⟩,
  ⟨5, "TRAP", "Trace/breakpoint trap"⟩,
  ⟨6, "ABRT", "Aborted"⟩,
  ⟨7, "BUS", "Bus error"⟩,
  ⟨8, "FPE", "Floating point exception"⟩,
  ⟨9, "KILL", "Killed"⟩,
  ⟨10, "USR1", "User defined signal 1"⟩,
  ⟨11, "SEGV", "Segmentation fault"⟩,
  ⟨12, "USR2", "User defined signal 2"⟩,
  ⟨13, "PIPE", "Broken pipe"⟩,
  ⟨14, "ALRM", "Alarm clock"⟩,
  ⟨15, "TERM", "Terminated"⟩,
  ⟨16, "STKFLT", "Stack fault"⟩,
  ⟨17, "CHLD", "Child exited"⟩,
  ⟨18, "CONT", "Continued"⟩,
  ⟨19, "STOP", "Stopped (signal)"⟩,
  ⟨20, "TSTP", "Stopped"⟩,
  ⟨21, "TTIN", "Stopped (tty input)"⟩,
  ⟨22, "TTOU", "Stopped (tty output)"⟩,
  ⟨23, "URG", "Urgent I/O condition"⟩,
  ⟨24, "XCPU", "CPU time limit exceeded"⟩,
  ⟨25, "XFSZ", "File size limit exceeded"⟩,
  ⟨26, "VTALRM", "Virtual timer expired"⟩,
  ⟨27, "PROF", "Profiling timer expired"⟩,
  ⟨28, "WINCH", "Window changed"⟩,
  ⟨29, "IO", "I/O possible"⟩,
  ⟨30, "PWR", "Power failure"⟩,
  ⟨31, "SYS", "Bad system call"⟩]

def ofNumber? (n : Nat) : Option Signal := all.find? (·.number = n)

/-- Signals that a process takes no notice of, unless it has asked for them. -/
def isIgnored (s : Signal) : Bool := ["CHLD", "CONT", "URG", "WINCH"].contains s.name

/-- A signal that nothing can be done about. -/
def isForced (s : Signal) : Bool := s.name == "KILL" || s.name == "STOP"

/-- The ends that nobody is told about. -/
def isQuiet (s : Signal) : Bool := s.name == "INT" || s.name == "PIPE"

def upper (bytes : Octets) : Octets := bytes.map fun b => if 97 ≤ b && b ≤ 122 then b - 32 else b

/-- The signal of a name, in letters of any case. -/
def ofName? (name : Octets) : Option Signal :=
  all.find? fun s => Text.encode s.name == upper name

/-- The signal of a name or a number. -/
def parse? (text : Octets) : Option Signal :=
  if !text.isEmpty && text.all isDigit then
    ofNumber? (text.foldl (fun n b => n * 10 + (b.toNat - 48)) 0)
  else ofName? text

end Signal

end ThemedShell.CommandLanguage
