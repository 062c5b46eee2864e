import ThemedShell.CommandRunner
import ThemedShell.Program
import ThemedShell.UsualMachine

/-!
# The command line

The program works on a machine that is kept in memory, with the current and the home directory in
it; what it reads are the bytes of its standard input.
-/
namespace ThemedShell

/-- The variables that the program and the shell's commands look at. -/
def lookedAt : List String :=
  ["HOME", "USER", "USERNAME", "PATH", "TERM", "TERM_PROGRAM", "COLORTERM", "NO_COLOR", "CLICOLOR",
   "CLICOLOR_FORCE", "LC_ALL", Logging.variableName]

/-- The environment, as far as it is looked at. -/
def readEnvironment : IO Environment :=
  lookedAt.filterMapM fun name => return (← IO.getEnv name).map (name, ·)

/-- All that is left to read, behind what has been read. -/
partial def readToEnd (input : IO.FS.Stream) (read : ByteArray) : IO ByteArray := do
  let more ← input.read 65536
  if more.isEmpty then return read else readToEnd input (read ++ more)

end ThemedShell

open ThemedShell in
def main (arguments : List String) : IO UInt32 := do
  let environment ← readEnvironment
  let directory := Path.ofString (← IO.currentDir).toString
  let home := Machine.homeOf environment
  let machine := (Machine.usual.ensureDirectory home).ensureDirectory directory
  let input ← readToEnd (← IO.getStdin) .empty
  let host := Machine.host (some home) (CommandRunner.run environment)
  let ending := Program.run host Device.buffer "" { arguments, environment, directory }
    (Editor.readings input.toList) machine
  (← IO.getStdout).putStr ending.device
  (← IO.getStderr).putStr ending.stderr
  return ending.code.toUInt32
