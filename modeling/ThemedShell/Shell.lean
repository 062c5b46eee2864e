import ThemedShell.Editor
import ThemedShell.Interpreter
import ThemedShell.Output.Terminal

/-!
# The shell

The shell offers a prompt, takes a reading from the editor, lets the interpreter run it, and begins
again, until a line or the end of the input ends it. The interpreter writes to a terminal, which
holds each prompt back until it is offered; the editor has an input field, which shares the theme of
the terminal.

`new` is the rest of `Shell.new` once there is a session, `run` is `Shell.run`, and `take` is what
its loop does with what `readline` gives; `banner` and `userName` are `banner` and `user_name`.
-/
namespace ThemedShell

/-- Where a shell runs and what it has been asked to leave out. -/
structure Surroundings (σ δ : Type) where
  host : Host σ
  device : Device δ
  /-- Neither a greeting nor advice. -/
  quiet : Bool
  /-- The editor writes each prompt to the device. -/
  showsPrompt : Bool

/-- A running shell. -/
structure Shell (σ δ : Type) where
  session : Session
  machine : σ
  terminal : Terminal δ
  /-- What the editor shows the prompt and the typed text with. -/
  field : InputField
  /-- The prompts that have been offered, in order. -/
  offered : List String := []
  /-- The lines that have been run, in order. -/
  submitted : List String := []
  /-- All that has been noted for the log. -/
  log : List LogEvent := []

namespace Shell

variable {σ δ : Type}

/-! ## Greeting -/

def banner (session : Session) (user : String) : List Line :=
  [.plain ("Hello, " ++ user ++ "! Welcome to tinta."),
   .plain ("Current directory: " ++ session.directory.display),
   .plain "Type 'help' to see the available commands.",
   .plain ""]

/-- Who is greeted. -/
def userName (env : Environment) : String :=
  ((env.value? "USER").or (env.value? "USERNAME")).getD "user"

/-! ## Steps -/

def tell (around : Surroundings σ δ) (calls : List SinkCall) (shell : Shell σ δ) : Shell σ δ :=
  { shell with
    terminal := shell.terminal.receiveAll around.device calls
    log := shell.log ++ shell.terminal.notedAll around.device calls }

def note (event : LogEvent) (shell : Shell σ δ) : Shell σ δ :=
  { shell with log := shell.log ++ [event] }

/-- Writes a text past the terminal's lines. -/
def write (around : Surroundings σ δ) (text : String) (shell : Shell σ δ) : Shell σ δ :=
  { shell with terminal :=
    { shell.terminal with device := around.device.send [text] shell.terminal.device } }

/-- Gives the editor the prompt that the terminal holds, or else that of the session. -/
def offerPrompt (around : Surroundings σ δ) (shell : Shell σ δ) : Shell σ δ :=
  let (held, terminal) := shell.terminal.takePrompt
  let prompt := held.getD shell.session.prompt
  let shell := { shell with terminal, offered := shell.offered ++ [prompt] }
  if around.showsPrompt then shell.write around prompt else shell

/-- Runs a line. All that a command notes comes before anything that it writes. -/
def submit (around : Surroundings σ δ) (line : String) (shell : Shell σ δ) :
    Outcome × Shell σ δ :=
  let (outcome, run) :=
    Interpreter.execute around.host line { session := shell.session, host := shell.machine }
  (outcome,
    { shell with
      session := run.session
      machine := run.host
      terminal := shell.terminal.receiveAll around.device run.calls
      submitted := shell.submitted ++ [line]
      log := shell.log ++ run.log ++ shell.terminal.notedAll around.device run.calls })

/-- Notes that a line has ended the shell, if it has. -/
def noteExit (taken : Outcome × Shell σ δ) : Outcome × Shell σ δ :=
  (taken.1, if taken.1 = .exit then taken.2.note .exitRequested else taken.2)

/-- What the user is told who tries to interrupt the shell. -/
def advice : String := "Use 'exit' to exit the shell\n"

/-- What a reading does. -/
def take (around : Surroundings σ δ) (shell : Shell σ δ) : Reading → Outcome × Shell σ δ
  | .line line => noteExit (shell.submit around line)
  | .interrupted => (.proceed, if around.quiet then shell else shell.write around advice)
  | .endOfInput => (.exit, shell.note .inputEnded)
  | .failed => (.proceed, shell.note .readingFailed)

/-- Takes readings until one ends the shell. When there are no more, the input has ended. -/
def loop (around : Surroundings σ δ) (shell : Shell σ δ) : List Reading → Shell σ δ
  | [] => (shell.offerPrompt around).note .inputEnded
  | reading :: rest =>
    match (shell.offerPrompt around).take around reading with
    | (.exit, shell) => shell
    | (.proceed, shell) => loop around shell rest

/-! ## From start to end -/

/-- A shell that has not been used. Its terminal is told of the theme of the session, and the input
field is given the address at which the terminal keeps it. -/
def new (session : Session) (machine : σ) (device : δ) (painter : Painter) : Shell σ δ :=
  let terminal : Terminal δ := { device, painter }
  let terminal := { terminal with cells := terminal.cellsAfter (.applyTheme session.theme) }
  { session, machine, terminal, field := terminal.inputField }

/-- Greets the user unless it is to be quiet, and prepares the first prompt. -/
def greet (around : Surroundings σ δ) (user : String) (shell : Shell σ δ) : Shell σ δ :=
  let greeting := if around.quiet then [] else banner shell.session user
  shell.tell around ((greeting ++ [Line.prompt shell.session.prompt]).map .append)

def run (around : Surroundings σ δ) (user : String) (readings : List Reading)
    (shell : Shell σ δ) : Shell σ δ :=
  (shell.greet around user).loop around readings

end Shell

end ThemedShell
