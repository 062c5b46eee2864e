import ThemedShell.CommandLanguage.Child
import ThemedShell.CommandLanguage.Expansion
import ThemedShell.CommandLanguage.Parser

/-!
# Evaluation: tasks, shell processes and loops

A process has two kinds of tasks: to run a command, or to become a program. What is said here about
shell processes, loops and pipelines takes `perform`, which performs the tasks that lie inside.
-/
namespace ThemedShell.CommandLanguage.Evaluation

open Text (Octets encode)

/-! ## Tasks -/

/-- How a command is run. -/
structure Manner where
  /-- The process has nothing else to do: it may become the command's program. -/
  last : Bool := false
  /-- A failure is looked at, and does not end the shell. -/
  tested : Bool := false

inductive Task where
  | command (manner : Manner) (body : Command)
  /-- Becomes the program in a file. -/
  | program (path name : Octets) (arguments : List Octets)

variable (perform : Task → Step Nat)

/-! ## Shell processes -/

/-- What leaves a loop or a function, or ends the shell, ends this step. -/
def settled (body : Step Nat) : Step Nat :=
  tryCatch body fun
    | .exit status | .leaveFunction status => return status
    | .leaveLoop _ | .nextRound _ => return 0
    | .killed signal process => throw (.killed signal process)

/-- Runs the lines of a program. The verb that gave the text is named in messages. -/
def runLines (manner : Manner) (verb : String) : Nat → Source → Nat → Step Nat
  | 0, _, status => return status
  | fuel + 1, source, status => do
    match readLine?.run source with
    | .error e =>
      let p ← get
      Step.err (p.name ++ encode (": " ++ toString e.line ++ ": " ++ verb ++ "Syntax error: "
        ++ e.message ++ "\n"))
      throw (.exit 2)
    | .ok (none, _) => return status
    | .ok (some command, source) =>
      modify fun p => { p with texts := source.texts }
      let status ← match command with
        | .nothing => pure status
        | command =>
          if (← get).options.noExecution then pure status else perform (.command manner command)
      let texts := (← get).texts
      runLines manner verb fuel { source with texts } status

/-- Runs a program text. -/
def runText (manner : Manner) (verb : String) (text : Octets) : Step Nat := do
  runLines perform manner verb (text.length + 2) { rest := text, texts := (← get).texts } 0

/-- Runs the actions of the signals that have come; the status stays. -/
def runTraps : Nat → Step Unit
  | 0 => return
  | fuel + 1 => do
    let p ← get
    match p.pending with
    | [] => return
    | name :: rest =>
      modify fun p => { p with pending := rest }
      match p.traps.lookup name with
      | some action =>
        let _ ← runText perform {} "" action
        modify fun q => { q with status := p.status }
      | none => pure ()
      runTraps fuel

/-- Runs what a shell process does, up to its end. -/
def asShell (body : Step Nat) : Step Nat := do
  let status ← settled body
  match (← get).traps.lookup "EXIT" with
  | none | some [] => return status
  | some action =>
    modify fun p => { p with traps := p.traps.filter (·.1 ≠ "EXIT"), status }
    settled do
      let _ ← runText perform {} "" action
      return status

/-- What a command writes, as the text that it is replaced by. -/
def substitute (body : Command) : Step Octets := do
  let (channel, p) := (← get).addChannel (.buffer .empty 0)
  set p
  let status ← Child.run do
    modify fun p => p.openAs 1 channel
    asShell perform (perform (.command { last := true } body))
  modify fun p => { p with substituted := status }
  let (content, p) := (← get).readAll channel
  set (p.setChannel channel .void)
  match content with
  | .ok bytes => return bytes.toList
  | .error _ => return []

/-! ## Loops -/

/-- Runs a part of a loop; says whether the loop goes on. -/
def inRound (body : Step Nat) : Step (Nat × Bool) :=
  tryCatch (do return (← body, true)) fun
    | .leaveLoop n => if n ≤ 1 then return (0, false) else throw (.leaveLoop (n - 1))
    | .nextRound n => if n ≤ 1 then return (0, true) else throw (.nextRound (n - 1))
    | other => throw other

/-- Runs a step inside one more loop. -/
def inLoop (body : Step Nat) : Step Nat := do
  let loops := (← get).loops
  modify fun p => { p with loops := loops + 1 }
  body.andThen fun p => { p with loops }

/-- Runs `body` as long as the test comes out as wanted. -/
def repeatWhile (negated : Bool) (test body : Step Nat) : Nat → Nat → Step Nat
  | 0, _ => do throw (.killed 24 (← get).number)
  | fuel + 1, status => do
    let tested ← tryCatch (do return some (← test)) fun
      | .leaveLoop n => if n ≤ 1 then return none else throw (.leaveLoop (n - 1))
      | .nextRound n => if n ≤ 1 then return some (if negated then 1 else 0)
        else throw (.nextRound (n - 1))
      | other => throw other
    match tested with
    | none => return status
    | some t =>
      if (t = 0) = negated then return status
      let (status, goesOn) ← inRound body
      if goesOn then repeatWhile negated test body fuel status else return status

/-- Runs `body` for each value of a variable. -/
def forEach (name : Octets) (body : Step Nat) : List Octets → Nat → Step Nat
  | [], status => return status
  | value :: rest, _ => do
    Expansion.assign name value
    let (status, goesOn) ← inRound body
    if goesOn then forEach name body rest status else return status

/-! ## Pipelines -/

/-- Runs the stages of a pipeline one after the other; each reads what the one before it wrote. -/
def pipeline (stage : Command → Step Nat) : Option Nat → List Command → Step Nat
  | _, [] => return 0
  | input, [final] => Child.run do
    if let some channel := input then modify fun p => p.openAs 0 channel
    stage final
  | input, first :: rest => do
    let (output, p) := (← get).addChannel (.buffer .empty 0)
    set p
    let _ ← Child.run do
      if let some channel := input then modify fun p => p.openAs 0 channel
      modify fun p => p.openAs 1 output
      stage first
    let status ← pipeline stage (some output) rest
    modify fun p => p.setChannel output .void
    return status

end ThemedShell.CommandLanguage.Evaluation
