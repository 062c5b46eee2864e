import ThemedShell.CommandLanguage.Signal
import ThemedShell.CommandLanguage.Verb.Basic

/-!
# Verbs: control flow and signals

A verb of control flow interrupts what runs; a signal interrupts a process, unless a trap or its
nature keeps it from that.
-/
namespace ThemedShell.CommandLanguage.Verb

open Text (Octets encode)

/-! ## Control flow -/

/-- How many loops a verb is about: no more than there are. -/
def levels (verb : String) (arguments : List Octets) : Step Nat := do
  let p ← get
  match arguments with
  | [] => return min 1 p.loops
  | argument :: _ =>
    let n ← numberOf verb argument
    if n = 0 then abort verb (illegalNumber argument)
    return min n p.loops

def leave (arguments : List Octets) : Step Nat := do
  let n ← levels "break" arguments
  if n = 0 then return 0
  throw (.leaveLoop n)

def next (arguments : List Octets) : Step Nat := do
  let n ← levels "continue" arguments
  if n = 0 then return 0
  throw (.nextRound n)

/-- The status that a verb was given, or else the last one. -/
def statusOf (verb : String) (arguments : List Octets) : Step Nat := do
  match arguments with
  | [] => return (← get).status
  | argument :: _ => numberOf verb argument

def exit (arguments : List Octets) : Step Nat := do throw (.exit (← statusOf "exit" arguments))

def giveBack (arguments : List Octets) : Step Nat := do
  throw (.leaveFunction (← statusOf "return" arguments))

/-! ## Signals -/

/-- The name under which a trap is kept. -/
def trapName? (text : Octets) : Option String :=
  if isText text "0" || Signal.upper text == encode "EXIT" then some "EXIT"
  else (Signal.parse? text).map (·.name)

def trap (arguments : List Octets) : Step Nat := do
  let arguments := if arguments.head?.any (isText · "--") then arguments.drop 1 else arguments
  match arguments with
  | [] =>
    for (name, action) in (← get).traps.reverse do
      Step.out (encode "trap -- " ++ quoted action ++ encode (" " ++ name ++ "\n"))
    return 0
  | first :: rest =>
    let (action, names) := if rest.isEmpty || (number? first).isSome then (none, first :: rest)
      else (if isText first "-" then none else some first, rest)
    setEach action names
where
  /-- Sets the action of each signal, or takes it away. -/
  setEach (action : Option Octets) : List Octets → Step Nat
    | [] => return 0
    | text :: rest => do
      match trapName? text with
      | none =>
        Step.err (encode "trap: " ++ text ++ encode ": bad trap\n")
        return 1
      | some name =>
        modify fun p =>
          let others := p.traps.filter (·.1 ≠ name)
          { p with traps := match action with
              | some action => (name, action) :: others
              | none => others }
        setEach action rest

/-- A signal reaches a process: its trap is due, or the process ends. -/
def send (signal : Signal) (process : Nat) : Step Nat := do
  let p ← get
  if process = p.number then
    match if signal.isForced then none else p.traps.lookup signal.name with
    | some action =>
      if !action.isEmpty then
        modify fun p => { p with pending := p.pending ++ [signal.name] }
      return 0
    | none =>
      if signal.isIgnored || signal.name == "STOP" then return 0
      throw (.killed signal.number process)
  else if process = p.shellNumber then
    if signal.isIgnored then return 0
    throw (.killed signal.number process)
  else if p.jobs.any (·.1 = process) then return 0
  else
    complain "kill" (encode "No such process")
    return 1

/-- The signal that the arguments of `kill` ask for, and what follows it; or a mistake. -/
def killSignal (arguments : List Octets) : Except Octets (Option Signal × List Octets) :=
  let parse (text : Octets) : Option (Option Signal) :=
    if isText text "0" then some none else (Signal.parse? text).map some
  let named (name : Octets) (rest : List Octets) : Except Octets (Option Signal × List Octets) :=
    match parse name with
    | some signal => .ok (signal, rest)
    | none => .error (encode "invalid signal number or name: " ++ name)
  let usual : Option Signal := Signal.ofNumber? 15
  match arguments with
  | (dash :: letter :: more) :: rest =>
    if asChar dash != '-' then .ok (usual, arguments)
    else if isText (letter :: more) "-" then .ok (usual, rest)
    else match parse (letter :: more) with
      | some signal => .ok (signal, rest)
      | none =>
        if asChar letter != 's' then .error (illegalOption letter)
        else match more, rest with
          | [], name :: rest => named name rest
          | [], [] => .error (missingArgument letter)
          | name, rest => named name rest
  | arguments => .ok (usual, arguments)

def kill (arguments : List Octets) : Step Nat := do
  let usage := encode ("Usage: kill [-s sigspec | -signum | -sigspec] [pid | job]... or\n"
    ++ "kill -l [exitstatus]")
  if arguments.head?.any (isText · "-l") then
    match arguments.drop 1 with
    | [] =>
      for signal in Signal.all do Step.outText (signal.name ++ "\n")
      return 0
    | status :: _ =>
      match number? status with
      | none => return ← wrong "kill" (illegalNumber status)
      | some n =>
        match Signal.ofNumber? (if 128 < n then n - 128 else n) with
        | some signal =>
          Step.outText (signal.name ++ "\n")
          return 0
        | none =>
          return ← wrong "kill" (encode "invalid signal number or exit status: " ++ status)
  match killSignal arguments with
  | .error message => wrong "kill" message
  | .ok (_, []) => wrong "kill" usage
  | .ok (signal, targets) => sendEach signal 0 targets
where
  /-- Sends the signal to each process; without one, only asks whether it is there. -/
  sendEach (signal : Option Signal) (status : Nat) : List Octets → Step Nat
    | [] => return status
    | target :: rest => do
      match number? target with
      | none => wrong "kill" (illegalNumber target)
      | some process =>
        let p ← get
        let one ← match signal with
          | some signal => send signal process
          | none =>
            if process = p.number || process = p.shellNumber || p.jobs.any (·.1 = process) then
              pure 0
            else do
              Verb.complain "kill" (encode "No such process")
              pure 1
        sendEach signal (max status one) rest

/-- Waits for background processes, which have all ended; the status is that of the last one
named. -/
def wait (arguments : List Octets) : Step Nat := do
  match arguments.getLast? with
  | none => return 0
  | some argument =>
    match number? argument with
    | none => wrong "wait" (illegalNumber argument)
    | some process => return ((← get).jobs.lookup process).getD 127

end ThemedShell.CommandLanguage.Verb
