import ThemedShell.Environment
import ThemedShell.ShellError
import ThemedShell.Theme

/-!
# The log

In the course of its work the shell notes events, which go to a log and never to the surface. Each
event has a level; a filter, which the environment or the user chooses, says which events are
written. How filters are read from a variable, and how an event is put into words, is left to a
library for logs.

The events are those that `Shell.run`, `Interpreter.dispatch`, the commands `cd` and `color`, and
`TerminalSink` note. A runner of command lines is given to the shell, and may write events of its own
to the same log; these are left out here, as they say nothing of the shell.
-/
namespace ThemedShell

inductive LogLevel where
  | error | warning | info | debug
deriving DecidableEq, Repr

/-- The gravest level has the lowest rank. -/
def LogLevel.rank : LogLevel → Nat
  | .error => 0
  | .warning => 1
  | .info => 2
  | .debug => 3

inductive LogEvent where
  /-- A line is run as the built-in with this verb. -/
  | builtin (verb : String)
  /-- A line is handed to the runner of command lines. -/
  | forwarded (line : String)
  | commandFailed (cause : CommandError)
  | directoryChanged (directory : Path)
  | themeChanged (layer : Layer) (color : Color)
  | lineNotWritten
  | screenNotCleared
  | exitRequested
  | inputEnded
  | readingFailed
deriving DecidableEq, Repr

def LogEvent.level : LogEvent → LogLevel
  | .readingFailed => .error
  | .lineNotWritten | .screenNotCleared => .warning
  | .directoryChanged _ | .themeChanged _ _ => .info
  | .builtin _ | .forwarded _ | .commandFailed _ | .exitRequested | .inputEnded => .debug

/-! ## Filters -/

/-- Says which events are written. -/
abbrev LogFilter := LogEvent → Bool

/-- A library for logs, as far as it makes filters. -/
structure Logging where
  /-- The filter that a text describes, if it describes one. -/
  filter? : String → Option LogFilter
  /-- The filter that a level stands for. -/
  upTo : LogLevel → LogFilter

namespace Logging

/-- A level stands for all events of its rank and of graver ones. -/
def ByLevel (logging : Logging) : Prop :=
  ∀ level event, logging.upTo level event = decide (event.level.rank ≤ level.rank)

/-- The variable that a filter is read from. -/
def variableName : String := "RUST_LOG"

/-- The filter of a program. The variable goes before the flag for finding faults; without either,
warnings and errors are written. -/
def filter (logging : Logging) (env : Environment) (debug : Bool) : LogFilter :=
  ((env.value? variableName).bind logging.filter?).getD
    (logging.upTo (if debug then .debug else .warning))

/-- Understands texts that are the name of a level and nothing else. An empty text lets errors through,
and `off` nothing. -/
def usual : Logging where
  filter? text := named? (text.map Char.toLower)
  upTo := rankUpTo
where
  named? : String → Option LogFilter
    | "off" => some fun _ => false
    | "" | "error" => some (rankUpTo .error)
    | "warn" => some (rankUpTo .warning)
    | "info" => some (rankUpTo .info)
    | "debug" | "trace" => some (rankUpTo .debug)
    | _ => none
  rankUpTo (level : LogLevel) (event : LogEvent) : Bool := event.level.rank ≤ level.rank

theorem byLevel_usual : usual.ByLevel := fun _ _ => rfl

end Logging

end ThemedShell
