import ThemedShell.CommandLanguage.Syntax
import ThemedShell.FileTree.File

/-!
# The command language: processes

A process has a directory, variables, open files and the rest of its own state; it works on a
`World` that all processes share. Running may be cut short by an `Interrupt`. A child process is a
process that starts with a copy of its parent's state; what it does to the world stays.
-/
namespace ThemedShell.CommandLanguage

open Text (Octets)
open FileTree (Node Location)

/-! ## The world -/

/-- What an open file leads to. -/
inductive Channel where
  /-- Has nothing to read and takes everything. -/
  | void
  /-- Keeps what is written until it is read. -/
  | buffer (data : ByteArray) (offset : Nat)
  | file (location : Location) (offset : Nat) (append : Bool)
  /-- An open directory cannot be read. -/
  | directory
deriving Inhabited

structure World where
  root : Node
  channels : Array Channel
  /-- The number that the next process gets. -/
  nextProcess : Nat

/-! ## Processes -/

structure Variable where
  value : Option Octets
  exported : Bool := false
  readOnly : Bool := false
deriving Inhabited

/-- The options of the shell that change how commands run. -/
structure Options where
  exitOnError : Bool := false
  refuseUnset : Bool := false
  noGlobbing : Bool := false
  trace : Bool := false
  noClobber : Bool := false
  allExport : Bool := false
  noExecution : Bool := false
deriving Inhabited

structure Process where
  world : World
  here : Location
  /-- The path that led here, as `cd` keeps it. -/
  path : Path
  number : Nat
  /-- The number of the shell that the process belongs to. -/
  shellNumber : Nat
  name : Octets
  arguments : List Octets := []
  bindings : List (Octets × Variable) := []
  functions : List (Octets × Command) := []
  /-- The channel of each open file. -/
  files : List (Nat × Nat) := []
  texts : Array Word := #[]
  status : Nat := 0
  /-- The status of the last command substitution. -/
  substituted : Nat := 0
  line : Nat := 1
  options : Options := {}
  /-- How many loops and functions run. -/
  loops : Nat := 0
  calls : Nat := 0
  /-- What to do about a signal, or at the end of the shell. -/
  traps : List (String × Octets) := []
  /-- Signals that have come and are still to be dealt with. -/
  pending : List String := []
  /-- Background processes, the last one first, and their statuses. -/
  jobs : List (Nat × Nat) := []
  /-- For each function that runs, what its local variables were before. -/
  locals : List (List (Octets × Option Variable)) := []
  /-- How far `getopts` has come: the argument, and the letter in it. -/
  optionPlace : Nat × Nat := (1, 1)

/-- What cuts a command short. -/
inductive Interrupt where
  | exit (status : Nat)
  | leaveLoop (levels : Nat)
  | nextRound (levels : Nat)
  | leaveFunction (status : Nat)
  | killed (signal process : Nat)
deriving Inhabited, Repr

abbrev Step := ExceptT Interrupt (StateM Process)

namespace Process

/-! ## Variables -/

def valueOf? (p : Process) (name : Octets) : Option Octets :=
  (p.bindings.lookup name).bind (·.value)

def value (p : Process) (name : String) : Octets := (p.valueOf? (Text.encode name)).getD []

def setVariable (p : Process) (name : Octets) (v : Variable) : Process :=
  { p with bindings := (name, v) :: p.bindings.filter fun other => other.1 ≠ name }

def assign (p : Process) (name value : Octets) : Process :=
  let before : Variable := (p.bindings.lookup name).getD { value := none }
  p.setVariable name
    { before with value := some value, exported := before.exported || p.options.allExport }

def isReadOnly (p : Process) (name : Octets) : Bool :=
  ((p.bindings.lookup name).map (·.readOnly)).getD false

def markExported (p : Process) (name : Octets) : Process :=
  p.setVariable name { (p.bindings.lookup name).getD { value := none } with exported := true }

def forget (p : Process) (name : Octets) : Process :=
  { p with bindings := p.bindings.filter fun v => v.1 ≠ name }

/-- The variables that child processes see, sorted by name. -/
def environment (p : Process) : List (Octets × Octets) :=
  (p.bindings.filterMap fun (name, v) =>
    if v.exported then v.value.map fun value => (name, value) else none).mergeSort
      fun a b => decide (a.1 ≤ b.1)

/-! ## Channels -/

def channelOf? (p : Process) (fd : Nat) : Option Nat := p.files.lookup fd

def openAs (p : Process) (fd channel : Nat) : Process :=
  { p with files := (fd, channel) :: p.files.filter fun f => f.1 ≠ fd }

def close (p : Process) (fd : Nat) : Process :=
  { p with files := p.files.filter fun f => f.1 ≠ fd }

/-- Adds a channel; gives its number. -/
def addChannel (p : Process) (channel : Channel) : Nat × Process :=
  (p.world.channels.size,
   { p with world := { p.world with channels := p.world.channels.push channel } })

def setChannel (p : Process) (index : Nat) (channel : Channel) : Process :=
  { p with world := { p.world with channels := p.world.channels.setIfInBounds index channel } }

def setRoot (p : Process) (root : Node) : Process := { p with world := { p.world with root } }

/-- A pipe that nobody empties takes this much; who writes more is stopped. -/
def pipeLimit : Nat := 4194304

/-- Takes a channel away while its content is changed. -/
def takeChannel (p : Process) (index : Nat) : Channel × Process :=
  match p.world.channels[index]? with
  | some channel => (channel, p.setChannel index .void)
  | none => (.void, p)

def writeChannel (p : Process) (index : Nat) (bytes : ByteArray) : Process :=
  match p.takeChannel index with
  | (.buffer data offset, p) => p.setChannel index (.buffer (data ++ bytes) offset)
  | (.file location offset append, p) =>
    let offset := if append then FileTree.sizeAt p.world.root location else offset
    let p := p.setRoot (FileTree.writeAt p.world.root location offset bytes)
    p.setChannel index (.file location (offset + bytes.size) append)
  | (channel, p) => p.setChannel index channel

/-- All that is left to read in a channel. -/
def readAll (p : Process) (index : Nat) : Except SystemError ByteArray × Process :=
  match p.world.channels[index]? with
  | some (.buffer data offset) =>
    (.ok (data.extract offset data.size), p.setChannel index (.buffer data data.size))
  | some (.file location offset append) =>
    match p.world.root.at? location with
    | some (.file content _) =>
      (.ok (content.extract offset content.size),
       p.setChannel index (.file location (max offset content.size) append))
    | _ => (.ok .empty, p)
  | some .directory => (.error .isDirectory, p)
  | _ => (.ok .empty, p)

/-- The bytes up to a line end, which is taken too; `true` if there was one. -/
def readLine (p : Process) (index : Nat) : (Octets × Bool) × Process :=
  let content (data : ByteArray) (offset : Nat) : Octets × Bool :=
    let rest := (data.extract offset data.size).toList
    let line := rest.takeWhile fun b => asChar b != '\n'
    (line, line.length < rest.length)
  match p.world.channels[index]? with
  | some (.buffer data offset) =>
    let (line, ended) := content data offset
    ((line, ended),
     p.setChannel index (.buffer data (offset + line.length + if ended then 1 else 0)))
  | some (.file location offset append) =>
    match p.world.root.at? location with
    | some (.file data _) =>
      let (line, ended) := content data offset
      ((line, ended),
       p.setChannel index (.file location (offset + line.length + if ended then 1 else 0) append))
    | _ => (([], false), p)
  | _ => (([], false), p)

end Process

/-! ## Steps -/

namespace Step

/-- Writes to an open file; says whether it is open. -/
def write (fd : Nat) (bytes : Octets) : Step Bool := do
  match (← get).channelOf? fd with
  | none => return false
  | some index =>
    modify fun p => p.writeChannel index ⟨bytes.toArray⟩
    match (← get).world.channels[index]? with
    | some (.buffer data offset) =>
      if index > 2 && data.size - offset > Process.pipeLimit then throw (.killed 13 (← get).number)
    | _ => pure ()
    return true

def out (bytes : Octets) : Step Unit := do let _ ← write 1 bytes

def outText (s : String) : Step Unit := out (Text.encode s)

def err (bytes : Octets) : Step Unit := do let _ ← write 2 bytes

def errText (s : String) : Step Unit := err (Text.encode s)

/-- All that can be read from an open file. -/
def readAll (fd : Nat) : Step (Except SystemError Octets) := do
  match (← get).channelOf? fd with
  | none => return .error (.os 9)
  | some index =>
    let (content, p) := (← get).readAll index
    set p
    return content.map (·.toList)

/-- Whether an open file is a file of the tree. -/
def readsFile (fd : Nat) : Step Bool := do
  let p ← get
  match (p.channelOf? fd).bind (p.world.channels[·]?) with
  | some (.file _ _ _) => return true
  | _ => return false

/-- A message of the shell: its name, the line, and the text. -/
def complain (message : Octets) : Step Unit := do
  let p ← get
  err (p.name ++ Text.encode (": " ++ toString p.line ++ ": ") ++ message ++ [ascii '\n'])

/-- Ends the shell with a message. -/
def abort {α : Type} (message : Octets) : Step α := do
  complain message
  throw (.exit 2)

/-- What a message about a file says: a missing one is called as the moment demands. -/
def describe (e : SystemError) (missing : String) : String :=
  match e with
  | .os 2 => missing
  | .os 20 => missing
  | .os n => SystemError.describe n
  | .text message => message

end Step

end ThemedShell.CommandLanguage
