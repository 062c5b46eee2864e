import ThemedShell.CommandLanguage.Evaluation.Program
import ThemedShell.CommandLanguage.Redirection
import ThemedShell.CommandLanguage.Verb.Table

/-!
# Evaluation: simple commands

A simple command stands for a function, a verb or a program. Its words are expanded first, then its
redirections are opened, then its assignments are made.
-/
namespace ThemedShell.CommandLanguage.Evaluation

open Text (Octets encode)

variable (perform : Task → Step Nat)

/-! ## Simple commands -/

/-- The verbs that take assignments as arguments. -/
def declares (verb : Octets) : Bool :=
  ["export", "readonly", "local", "alias"].any fun name => encode name == verb

/-- An argument of such a verb: an assignment is one text. -/
def declaration (word : Word) : Step (List Octets) := do
  match assignment? word with
  | some (name, value) =>
    return [name ++ ascii '=' :: (← Expansion.whole (substitute perform) value)]
  | none => Expansion.texts (substitute perform) [word]

/-- The texts of the words of a simple command. -/
def wordTexts : List Word → Step (List Octets)
  | [] => return []
  | word :: rest => do
    match ← Expansion.texts (substitute perform) [word] with
    | [] => wordTexts rest
    | verb :: more =>
      if declares verb then
        let others ← rest.mapM (declaration perform)
        return verb :: more ++ others.flatten
      else return verb :: more ++ (← Expansion.texts (substitute perform) rest)

/-- Makes the assignments of a simple command, and gives them as texts. For one command only they go
to the environment. -/
def assignEach (forCommand : Bool) : List (Octets × Word) → Step (List Octets)
  | [] => return []
  | (name, word) :: rest => do
    let value ← Expansion.whole (substitute perform) word
    Expansion.assign name value
    if forCommand then modify fun p => p.markExported name
    return (name ++ ascii '=' :: value) :: (← assignEach forCommand rest)

/-- Gives variables back what they were before. -/
def restoreVariables (before : List (Octets × Option Variable)) (p : Process) : Process :=
  before.foldl (fun p (name, old) =>
    match old with
    | some v => p.setVariable name v
    | none => p.forget name) p

/-- As many functions can run inside each other. -/
def callLimit : Nat := 1000

/-- Runs the body of a function. -/
def callFunction (manner : Manner) (body : Command) (arguments : List Octets) : Step Nat := do
  let p ← get
  if callLimit ≤ p.calls then
    Step.abort (encode ("Maximum function recursion depth (" ++ toString callLimit ++ ") reached"))
  modify fun p => { p with arguments, loops := 0, calls := p.calls + 1, locals := [] :: p.locals }
  let run : Step Nat := tryCatch (perform (.command { tested := manner.tested } body)) fun
    | .leaveFunction status => return status
    | other => throw other
  let (old, loops) := (p.arguments, p.loops)
  run.andThen fun p =>
    let frame := p.locals.head?.getD []
    let p := restoreVariables frame p
    { p with arguments := old, loops, calls := p.calls - 1, locals := p.locals.tail }

/-- Tells what a name stands for, in words or as a command would be written. -/
def explain (inWords : Bool) (name : Octets) : Step Nat := do
  let p ← get
  let say (short long : Octets) : Step Nat := do
    Step.out ((if inWords then name ++ encode " is " ++ long else short) ++ [ascii '\n'])
    return 0
  if keywords.any fun keyword => encode keyword == name then say name (encode "a shell keyword")
  else if (p.functions.lookup name).isSome then say name (encode "a shell function")
  else if isSpecialVerb name then say name (encode "a special shell builtin")
  else if (Verb.find? name).isSome || name == encode "command" || name == encode "type" then
    say name (encode "a shell builtin")
  else match programPath p name with
    | .ok path =>
      if isProgramFile p path then say path path else unknown
    | .error _ => unknown
where
  /-- The name stands for nothing. -/
  unknown : Step Nat := do
    if inWords then Step.out (name ++ encode ": not found\n")
    return 127

/-- The status of the last of several answers that was not 0. -/
def explainEach (inWords : Bool) (names : List Octets) : Step Nat :=
  names.foldlM (fun status name => do
    let one ← explain inWords name
    return if one = 0 then status else one) 0

/-- The command behind `command`, which no function stands in for. -/
def withoutCommand : List Octets → Bool × List Octets
  | verb :: rest =>
    if verb == encode "command" then
      match rest with
      | option :: more =>
        if option == encode "-v" || option == encode "-V" then (true, verb :: rest)
        else if option == encode "-p" || option == encode "--" then
          (true, (withoutCommand more).2)
        else (true, (withoutCommand (option :: more)).2)
      | [] => (true, [])
    else (false, verb :: rest)
  | [] => (false, [])

/-- Runs the file of a name in the shell itself. -/
def source (name : Octets) : Step Nat := do
  let p ← get
  let path? := if name.contains Path.slash then some name
    else (searchPath p).map (fun directory => ((Path.mk directory).join ⟨name⟩).bytes)
      |>.find? (isProgramFile p)
  match path? with
  | none => Verb.abort "." (name ++ encode ": not found")
  | some path =>
    match FileTree.readFile p.world.root p.here ⟨path⟩ with
    | .ok content =>
      tryCatch (runText perform {} "" content.toList) fun
        | .leaveFunction status => return status
        | other => throw other
    | .error e =>
      Verb.abort "." (encode "cannot open " ++ path
        ++ encode (": " ++ Step.describe e "No such file"))

/-- Becomes another program for good. -/
def exec (arguments : List Octets) : Step Nat := do
  match arguments with
  | [] => return 0
  | name :: arguments =>
    match programPath (← get) name with
    | .ok path =>
      modify fun p => { p with traps := p.traps.filter (·.2.isEmpty) }
      if isProgramFile (← get) path then
        throw (.exit (← perform (.program path name arguments)))
      else
        let status ← perform (.program path (encode "exec: " ++ name) arguments)
        throw (.exit status)
    | .error message =>
      Verb.complain "exec" (name ++ encode (": " ++ message))
      throw (.exit 127)

/-- Runs the program of a name, in this process if nothing else is left to do. -/
def runProgram (manner : Manner) (name : Octets) (arguments : List Octets) : Step Nat := do
  let p ← get
  match programPath p name with
  | .error message =>
    Step.complain (name ++ encode (": " ++ message))
    return 127
  | .ok path =>
    let body := perform (.program path name arguments)
    if manner.last && p.traps.isEmpty then body else Child.run body

/-- Runs what the first text names, with the others as arguments. -/
def invoke (manner : Manner) (direct : Bool) (name : Octets) (arguments : List Octets) :
    Step Nat := do
  let p ← get
  match if direct then none else p.functions.lookup name with
  | some body => callFunction perform manner body arguments
  | none =>
    match Verb.find? name with
    | some verb => verb arguments
    | none =>
      if name == encode "eval" then
        runText perform { tested := manner.tested } "eval: " ([ascii ' '].intercalate arguments)
      else if name == encode "." then
        match arguments with
        | file :: _ => source perform file
        | [] => return 0
      else if name == encode "exec" then exec perform arguments
      else if name == encode "type" then explainEach true arguments
      else if name == encode "command" then
        explainEach (arguments.head? == some (encode "-V")) ((arguments.drop 1).take 1)
      else runProgram perform manner name arguments

/-- Runs a simple command: its words are expanded first, then its redirections are opened, then its
assignments are made. -/
def simple (manner : Manner) (line : Nat) (assignments : List (Octets × Word))
    (words : List Word) (redirects : List Redirect) : Step Nat := do
  modify fun p => { p with line, substituted := 0 }
  let texts ← wordTexts perform words
  let isExec := texts.head? == some (encode "exec")
  let (direct, texts') := withoutCommand texts
  let isSpecial := texts.head?.any isSpecialVerb
  let before := (← get).files
  let ready ← redirects.mapM (Redirection.expand (substitute perform))
  let close (p : Process) : Process :=
    if isExec then p else Redirection.restore before redirects p
  let body : Step Nat := do
    if !(← Redirection.openAll ready) then
      if isSpecial then throw (.exit 2)
      return 2
    match texts' with
    | [] =>
      let shown ← assignEach perform false assignments
      trace shown
      return (← get).substituted
    | name :: arguments =>
      let p ← get
      let saved := assignments.map fun (name, _) => (name, p.bindings.lookup name)
      let shown ← assignEach perform (!isSpecial || isExec) assignments
      trace (shown ++ texts)
      let run := invoke perform manner direct name arguments
      if isSpecial || saved.isEmpty then run else run.andThen (restoreVariables saved)
  body.andThen close
where
  /-- Shows a command before it is run, if that is asked for. -/
  trace (texts : List Octets) : Step Unit := do
    let p ← get
    if p.options.trace && !texts.isEmpty then
      Step.err (p.value "PS4" ++ [ascii ' '].intercalate texts ++ [ascii '\n'])

end ThemedShell.CommandLanguage.Evaluation
