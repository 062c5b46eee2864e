import ThemedShell.External
import ThemedShell.Flags

/-!
# Errors of the shell

`ShellError` is what keeps the shell from starting or going on, `CommandError` what makes a single
command fail. The latter is shown to the user as one line and never ends the session. `message` is
the text of either as it is displayed.
-/
namespace ThemedShell

/-- What keeps the line editor from giving a line. -/
inductive ReadError where
  | endOfInput
  | interrupted
  | system (source : SystemError)
deriving DecidableEq, Repr

def ReadError.message : ReadError → String
  | .endOfInput => "EOF"
  | .interrupted => "Interrupted"
  | .system source => source.message

inductive ShellError where
  | read (cause : ReadError)
  | system (source : SystemError)
  | homeNotFound
  | invalidStart (directory : Path)
  | flag (cause : FlagError)
  | interruptHandler (message : String)
deriving DecidableEq, Repr

def ShellError.message : ShellError → String
  | .read cause => "Readline error: " ++ cause.message
  | .system source => "IO error: " ++ source.message
  | .homeNotFound => "Home directory not found"
  | .invalidStart directory => "Not a directory: " ++ directory.display
  | .flag cause => "Flag error: " ++ cause.message
  | .interruptHandler message => "Ctrl-C error: " ++ message

inductive CommandError where
  | pathNotFound (shown : String)
  | alreadyExists (name : String)
  | unrecognizedColor (name hint : String)
  | external (cause : External.Error)
  | system (action : String) (source : SystemError)
  | path (cause : ShellError)
deriving DecidableEq, Repr

def CommandError.message : CommandError → String
  | .pathNotFound shown => "Error: the directory '" ++ shown ++ "' does not exist."
  | .alreadyExists name => "Error: the folder '" ++ name ++ "' already exists."
  | .unrecognizedColor name hint =>
    "Color '" ++ name ++ "' not recognized. Try standard colors such as " ++ hint ++ "."
  | .external cause => "Error running external command: " ++ cause.message
  | .system action source => "Error " ++ action ++ ": " ++ source.message
  | .path cause => "Error resolving path: " ++ cause.message

end ThemedShell
