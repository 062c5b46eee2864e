import ThemedShell.Environment
import ThemedShell.FileTree.File
import ThemedShell.Session

/-!
# Machines

A machine keeps a tree of files in memory and answers a session's questions about it. What runs
command lines is given separately: it may work on the same tree or have a state of its own.
-/
namespace ThemedShell

structure Machine where
  root : FileTree.Node
  /-- Where relative paths start. -/
  here : FileTree.Location := []

/-- What runs command lines. -/
abbrev Runner (σ : Type) := String → Path → StateM σ (Except External.Error External.Result)

namespace Machine

open FileTree (hasNul)

/-! ## Answers about files -/

/-- A path with a NUL leads nowhere. -/
def isDirectory (path : Path) : StateM Machine Bool :=
  return !hasNul path && FileTree.isDirectoryAt (← get).root (← get).here path

def occupied (path : Path) : StateM Machine Bool :=
  return !hasNul path && FileTree.isOccupied (← get).root (← get).here path

def nulInName : SystemError := .text "file name contained an unexpected NUL byte"

def createDirectory (path : Path) : StateM Machine (Except SystemError Unit) := do
  if hasNul path then return .error nulInName
  match FileTree.createDirectory (← get).root (← get).here path with
  | .error e => return .error e
  | .ok root =>
    modify ({ · with root })
    return .ok ()

def listDirectory (path : Path) :
    StateM Machine (Except SystemError (List (Except SystemError FileName))) := do
  if hasNul path then return .error nulInName
  match FileTree.listDirectory (← get).root (← get).here path with
  | .error e => return .error e
  | .ok names => return .ok (names.map .ok)

/-- The machine as the host of a session. -/
def host (home : Option Path) (runner : Runner Machine) : Host Machine :=
  { home, isDirectory, occupied, createDirectory, listDirectory, launch := runner }

/-! ## The user -/

/-- The home directory of the account. -/
def accountHome : Path := .ofString "/root"

/-- The home directory as the environment gives it, or else that of the account. -/
def homeOf (env : Environment) : Path :=
  match env.value? "HOME" with
  | some home => if home.isEmpty then accountHome else .ofString home
  | none => accountHome

end Machine

/-! ## Runners with a state of their own -/

/-- The same host, with command lines left to a runner that has a state of its own. -/
def Host.withRunner {σ ρ : Type} (host : Host σ) (runner : Runner ρ) : Host (σ × ρ) :=
  { home := host.home
    isDirectory := fun path => onFirst (host.isDirectory path)
    occupied := fun path => onFirst (host.occupied path)
    createDirectory := fun path => onFirst (host.createDirectory path)
    listDirectory := fun path => onFirst (host.listDirectory path)
    launch := fun line directory (machine, state) =>
      let (answer, state) := runner line directory state
      (answer, (machine, state)) }
where
  /-- A question to the host alone. -/
  onFirst {α : Type} (question : StateM σ α) : StateM (σ × ρ) α := fun (machine, state) =>
    let (answer, machine) := question machine
    (answer, (machine, state))

/-! ## Scripted answers -/

/-- An answer that does not depend on what was asked. -/
inductive ScriptedAnswer where
  | result (result : External.Result)
  | launchError (message : String)
  | missingDirectory (directory : Path)
deriving Repr

/-- Answers in store, and the command lines that have been run so far, with their directories. -/
structure Script where
  answers : List ScriptedAnswer
  asked : List (String × Path) := []

def ScriptedAnswer.answer (line : String) :
    ScriptedAnswer → Except External.Error External.Result
  | .result r => .ok r
  | .launchError message => .error (.launch line (.text message))
  | .missingDirectory directory => .error (.missingDirectory directory)

/-- Gives the answers in store one by one, and empty results once they have run out. -/
def Script.runner : Runner Script := fun line directory script =>
  let asked := script.asked ++ [(line, directory)]
  match script.answers with
  | [] => (.ok {}, { script with asked })
  | answer :: rest => (answer.answer line, { answers := rest, asked })

end ThemedShell
