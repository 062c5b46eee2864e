import ThemedShell.Command.Directory
import ThemedShell.Command.External
import ThemedShell.Command.Surface

/-!
# The interpreter

The interpreter takes one line at a time: it echoes the line, runs it as a built-in or, if its verb
is none, as an external command line, and shows the next prompt unless the session has ended.
`execute` is `Interpreter.execute` and `showPrompt` is `Interpreter.prompt`; `Interpreter.dispatch`
is what `execute` does with a line that is not blank: `route` notes which way the line goes,
`dispatch` is the action that it goes to, and `report` says what becomes of a failure.
-/
namespace ThemedShell

variable {σ : Type}

/-- What a built-in does with its argument. -/
def Builtin.run (host : Host σ) (argument : String) : Builtin → Action σ Outcome
  | .help => Command.help
  | .changeDirectory => Command.changeDirectory host argument
  | .list => Command.list host argument
  | .makeDirectory => Command.makeDirectory host argument
  | .clear => Command.clear
  | .color layer => Command.setColor layer argument
  | .exec => Command.exec host argument
  | .exit => return .exit

namespace Interpreter

/-- Runs a line that is not blank and has no blanks at its ends. -/
def dispatch (host : Host σ) (line : String) : Action σ Outcome :=
  let submission := Submission.parse line
  match Builtin.ofVerb? submission.verb with
  | some builtin => builtin.run host submission.argument
  | none => Command.runExternal host line

/-- What is noted of a line before it is dispatched. -/
def route (line : String) : LogEvent :=
  let submission := Submission.parse line
  match Builtin.ofVerb? submission.verb with
  | some _ => .builtin submission.verb
  | none => .forwarded line

/-- A failure is noted and shown as one line, and the session goes on. -/
def report (action : Action σ Outcome) : StateM (Run σ) Outcome := do
  match ← action.run with
  | .ok outcome => return outcome
  | .error e =>
    Run.note (.commandFailed e)
    Run.tell [.append (.error e.message)]
    return .proceed

/-- Shows the prompt of the session as it is now. -/
def showPrompt : StateM (Run σ) Unit := do
  Run.tell [.append (.prompt (← get).session.prompt)]

/-- Takes one submitted line. -/
def execute (host : Host σ) (line : String) : StateM (Run σ) Outcome := do
  let line := Text.trim line
  Run.tell [.append (.echo ("> " ++ line))]
  let outcome ← if line.isEmpty then pure .proceed else do
    Run.note (route line)
    report (dispatch host line)
  if outcome = .proceed then showPrompt
  return outcome

end Interpreter

end ThemedShell
