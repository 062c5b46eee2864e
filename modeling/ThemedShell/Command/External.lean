import ThemedShell.Command.Basic
import ThemedShell.Text.Lines

/-!
# External commands

A command line is run in the current directory, and what comes back is written as lines: the
output, then what was written as errors and the status of a failure that says nothing. `exec` is
`ExecCommand.execute`, `runExternal` is `run_external`, and `render` is `render_result`.
-/
namespace ThemedShell.Command

variable {σ : Type}

/-- The error text without the blanks at its end, as a line if anything is left of it. -/
def complaint (result : External.Result) : List Line :=
  let stderr := Text.trimEnd result.stderr
  if stderr.isEmpty then [] else [.error ("ERROR: " ++ stderr)]

/-- The status of a failure whose error text is blank. -/
def statusNotice (result : External.Result) : List Line :=
  if !result.succeeded && (Text.trim (Text.trimEnd result.stderr)).isEmpty then
    [.warning ("Process exited with status: " ++ toString result.status)]
  else []

/-- What follows the output. -/
def verdict (result : External.Result) : List Line := complaint result ++ statusNotice result

/-- What came back from an external command, as lines. -/
def render (result : External.Result) : List Line :=
  (Text.lines result.stdout).map .plain ++ verdict result

def runExternal (host : Host σ) (commandLine : String) : Action σ Outcome := do
  match ← Action.ask (host.launch commandLine (← Action.session).directory) with
  | .error cause => throw (.external cause)
  | .ok result =>
    Action.emit (render result)
    return .proceed

/-- Runs the argument as a command line. -/
def exec (host : Host σ) (argument : String) : Action σ Outcome := do
  if Text.isBlankText argument then
    Action.emit [.warning "Usage: exec <command> [args]"]
    return .proceed
  runExternal host argument

end ThemedShell.Command
