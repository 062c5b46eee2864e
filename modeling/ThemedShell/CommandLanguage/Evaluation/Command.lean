import ThemedShell.CommandLanguage.Evaluation.Simple

/-!
# Evaluation: commands

`advance` says what has to be done for a task, given how the tasks in it are performed; `perform`
ties the knot, up to a bound on how deep tasks lie in each other.
-/
namespace ThemedShell.CommandLanguage.Evaluation

open Text (Octets encode)

section

variable (perform : Task → Step Nat)

/-! ## Commands -/

/-- Runs the commands behind the first pattern that describes the subject. -/
def chooseClause (run : Command → Step Nat) (subject : Octets) :
    List (List Word × Command) → Step Nat
  | [] => return 0
  | (patterns, body) :: rest => do
    if ← matchesAny patterns then
      match body with
      | .nothing => return 0
      | body => run body
    else chooseClause run subject rest
where
  /-- Whether one of the patterns describes the subject. -/
  matchesAny : List Word → Step Bool
    | [] => return false
    | word :: rest => do
      let pattern ← Expansion.patternOf (substitute perform) word
      if Pattern.isMatch pattern subject then return true else matchesAny rest

/-- Runs a command in the background: its end is waited for at once. -/
def runInBackground (body : Command) : Step Nat := do
  let (number, result) ← Child.fork do
    Redirection.attach 0 .void
    asShell perform (perform (.command { last := true } body))
  let status := match result with
    | .ok status | .error (.exit status) | .error (.leaveFunction status) => status % 256
    | .error (.leaveLoop _) | .error (.nextRound _) => 0
    | .error (.killed signal _) => 128 + signal
  modify fun p => { p with jobs := (number, status) :: p.jobs }
  match result with
  | .error (.killed signal process) =>
    if process ≠ number then Child.receive signal process else return 0
  | _ => return 0

/-- Whether the failure of a command ends a shell that is to end at failures. -/
def isChecked : Command → Bool
  | .simple _ _ _ _ | .subshell _ | .background _ | .redirected (.subshell _) _ => true
  | .pipeline negated stages => !negated && stages.length > 1
  | _ => false

/-- No loop has more rounds. -/
def roundLimit : Nat := 10000000

/-- Runs a command by what it is made of. -/
def runCommand (manner : Manner) (command : Command) : Step Nat := do
  let run (manner : Manner) (c : Command) : Step Nat := perform (.command manner c)
  let inner : Manner := { tested := manner.tested }
  match command with
  | .nothing => return (← get).status
  | .simple line assignments words redirects =>
    simple perform manner line assignments words redirects
  | .pipeline negated stages =>
    let stage (manner : Manner) (c : Command) : Step Nat :=
      asShell perform (run { manner with last := true } c)
    let status ← match stages with
      | [only] => run (if negated then { tested := true } else manner) only
      | stages => pipeline (stage { tested := negated || manner.tested }) none stages
    return if negated then (if status = 0 then 1 else 0) else status
  | .both first second =>
    let status ← run { tested := true } first
    if status = 0 then run manner second else return status
  | .either first second =>
    let status ← run { tested := true } first
    if status = 0 then return status else run manner second
  | .sequence first second =>
    let _ ← run inner first
    run manner second
  | .background body => runInBackground perform body
  | .subshell body =>
    let whole := asShell perform (run { manner with last := true } body)
    if manner.last && (← get).traps.isEmpty then
      throw (.exit (← whole))
    else Child.run whole
  | .conditional test yes no =>
    if (← run { tested := true } test) = 0 then run manner yes
    else match no with
      | .nothing => return 0
      | no => run manner no
  | .whileLoop negated test body =>
    inLoop (repeatWhile negated (run { tested := true } test) (run inner body) roundLimit 0)
  | .forLoop name words body =>
    let values ← match words with
      | some words => Expansion.texts (substitute perform) words
      | none => pure (← get).arguments
    inLoop (forEach name (run inner body) values 0)
  | .select subject clauses =>
    let subject ← Expansion.whole (substitute perform) subject
    chooseClause perform (run manner) subject clauses
  | .function name body =>
    modify fun p =>
      { p with functions := (name, body) :: p.functions.filter fun f => f.1 ≠ name }
    return 0
  | .redirected (.subshell body) redirects =>
    let ready ← redirects.mapM (Redirection.expand (substitute perform))
    Child.run do
      if ← Redirection.openAll ready then
        asShell perform (run { manner with last := true } body)
      else return 2
  | .redirected body redirects =>
    let before := (← get).files
    let ready ← redirects.mapM (Redirection.expand (substitute perform))
    let whole : Step Nat := do
      if ← Redirection.openAll ready then run inner body else return 2
    whole.andThen (Redirection.restore before redirects)

/-! ## The knot -/

/-- As many traps are run after one command. -/
def trapLimit : Nat := 1000

/-- What has to be done for a task. -/
def advance (utility? : Octets → Option (List Octets → Step Nat)) : Task → Step Nat
  | .program path name arguments => become perform utility? path name arguments
  | .command manner command => do
    let status ← runCommand perform manner command
    modify fun p => { p with status }
    runTraps perform trapLimit
    if isChecked command && !manner.tested && status ≠ 0 && (← get).options.exitOnError then
      throw (.exit status)
    return status

end

/-- Performs a task, if tasks lie no deeper in each other than the bound. -/
def perform (utility? : Octets → Option (List Octets → Step Nat)) : Nat → Task → Step Nat
  | 0, _ => do throw (.killed 24 (← get).number)
  | depth + 1, task => advance (perform utility? depth) utility? task

end ThemedShell.CommandLanguage.Evaluation
