import ThemedShell.CommandLanguage.Evaluation.Command
import ThemedShell.Machine
import ThemedShell.Utility.Table

/-!
# Running command lines on a machine

A command line is the program of a shell process, which works on the files of the machine. Its
standard input has nothing to read; its outputs are kept until it has ended. `run` is
`ShellRunner.run`, with the processes that it starts.
-/
namespace ThemedShell

open Text (Octets encode)
open CommandLanguage

namespace CommandRunner

/-- The shell process that runs command lines, and its number. -/
def shellNumber : Nat := 4096

/-- Tasks lie no deeper in each other. -/
def depth : Nat := 100000

/-- The variables of an environment; a name that comes twice has its first value. -/
def variablesOf (environment : Environment) : List (Octets × Variable) :=
  let names := (environment.map Prod.fst).eraseDups
  (names.map fun name =>
    (encode name, { value := (environment.lookup name).map encode, exported := true }))
    ++ if names.contains "PATH" then []
      else [(encode "PATH", { value := some Evaluation.usualPath, exported := true })]

/-- A shell that has been started in a directory. -/
def startIn (machine : Machine) (environment : Environment) (here : FileTree.Location) : Process :=
  let world : World :=
    { root := machine.root
      channels := #[.void, .buffer .empty 0, .buffer .empty 0]
      nextProcess := shellNumber + 1 }
  Evaluation.freshShell
    { world, here, path := .ofNames true here, number := shellNumber, shellNumber, name := encode "sh"
      bindings := variablesOf environment, files := [(0, 0), (1, 1), (2, 2)] }
    (encode "sh")

/-- The text that a channel has kept. -/
def kept (p : Process) (channel : Nat) : String :=
  match p.world.channels[channel]? with
  | some (.buffer data _) => Text.decodeLossy data.toList
  | _ => ""

/-- The status that is left when a shell has ended: none, hence -1, after a signal. -/
def finalStatus : Except Interrupt Nat → Int
  | .ok status | .error (.exit status) | .error (.leaveFunction status) => (status % 256 : Nat)
  | .error (.leaveLoop _) | .error (.nextRound _) => 0
  | .error (.killed _ _) => -1

/-- Runs a program text in a shell up to its end. -/
def runShell (shell : Process) (text : Octets) : Except Interrupt Nat × Process :=
  let perform := Evaluation.perform Utility.find? depth
  Evaluation.asShell perform (Evaluation.runText perform {} "" text) shell

/-- Runs command lines with an environment on the files of a machine. -/
def run (environment : Environment) : Runner Machine := fun line directory machine =>
  match FileTree.locate machine.root machine.here directory true with
  | .error _ => (.error (.missingDirectory directory), machine)
  | .ok here =>
    if FileTree.hasNul directory || !FileTree.isDirectoryAt machine.root machine.here directory then
      (.error (.missingDirectory directory), machine)
    else if line.toList.contains '\x00' then
      (.error (.launch line (.text "nul byte found in provided data")), machine)
    else
      let (ending, shell) := runShell (startIn machine environment here) (encode line)
      (.ok { stdout := kept shell 1, stderr := kept shell 2, status := finalStatus ending },
       { machine with root := shell.world.root })

end CommandRunner

end ThemedShell
