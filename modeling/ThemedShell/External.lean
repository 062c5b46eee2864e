import ThemedShell.Path.Basic
import ThemedShell.SystemError

/-!
# External commands

What is left when a command line has been run outside the shell, and what can keep it from being
run at all: `ExternalResult` and `ProcessError`.
-/
namespace ThemedShell.External

structure Result where
  stdout : String := ""
  stderr : String := ""
  status : Int := 0
deriving DecidableEq, Repr, Inhabited

def Result.succeeded (r : Result) : Bool := r.status = 0

inductive Error where
  /-- The command line could not be started. -/
  | launch (command : String) (source : SystemError)
  /-- The directory to run it in is gone. -/
  | missingDirectory (directory : Path)
deriving DecidableEq, Repr

def Error.message : Error → String
  | .launch command source => "failed to launch '" ++ command ++ "': " ++ source.message
  | .missingDirectory directory => "working directory does not exist: " ++ directory.display

end ThemedShell.External
