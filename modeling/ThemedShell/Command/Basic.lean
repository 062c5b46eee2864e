import ThemedShell.Log
import ThemedShell.Output.Line
import ThemedShell.Session
import ThemedShell.Submission

/-!
# Actions of commands

A command acts on a session, asks the host, tells the surface it writes to, and notes events for the
log. It proceeds, ends the session, or fails with a `CommandError`; what has been done before a
failure stays done. A `Run` is the `Context` of a command, with what has passed through it; `emit` is
`Context.emit`.
-/
namespace ThemedShell

/-- What the shell does after a command. -/
inductive Outcome where
  | proceed | exit
deriving DecidableEq, Repr

/-- A session in the course of being run: the session, the state of the machine, all that the
surface has been told, and all that has been noted for the log. -/
structure Run (σ : Type) where
  session : Session
  host : σ
  calls : List SinkCall := []
  log : List LogEvent := []

/-- A step that may fail. -/
abbrev Action (σ α : Type) := ExceptT CommandError (StateM (Run σ)) α

namespace Run

variable {σ α : Type}

/-- Asks the host a question. -/
def ask (question : StateM σ α) : StateM (Run σ) α := fun run =>
  let (answer, host) := question run.host
  (answer, { run with host })

def tell (calls : List SinkCall) : StateM (Run σ) Unit :=
  modify fun run => { run with calls := run.calls ++ calls }

def note (event : LogEvent) : StateM (Run σ) Unit :=
  modify fun run => { run with log := run.log ++ [event] }

end Run

namespace Action

variable {σ α : Type}

def ask (question : StateM σ α) : Action σ α := ExceptT.lift (Run.ask question)

def tell (calls : List SinkCall) : Action σ Unit := ExceptT.lift (Run.tell calls)

def note (event : LogEvent) : Action σ Unit := ExceptT.lift (Run.note event)

/-- Appends lines. -/
def emit (lines : List Line) : Action σ Unit := tell (lines.map .append)

def session : Action σ Session := return (← get).session

def setSession (session : Session) : Action σ Unit := modify ({ · with session })

end Action

end ThemedShell
