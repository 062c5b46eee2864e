import ThemedShell.ShellError
import ThemedShell.Theme

/-!
# Sessions

A session has a current directory and a theme. `Host` is all that a session asks of the machine it
runs on; what the machine answers may change from one question to the next.

`start?` is `Session.new`, `enter?` is `Session.change_dir`, `prompt` is `Session.prompt`. The
questions of a `Host` are `home_dir`, `is_dir`, `symlink_metadata`, `create_dir` and `read_dir`, and
`launch` is `ProcessRunner.run`.
-/
namespace ThemedShell

/-! ## The machine -/

/-- The questions that a session asks of a machine whose state is of type `σ`. -/
structure Host (σ : Type) where
  /-- The home directory of the user, as it is written in the environment. -/
  home : Option Path
  /-- There is a directory at the path, perhaps by way of links. -/
  isDirectory : Path → StateM σ Bool
  /-- Something has this name; a link counts whatever it leads to. -/
  occupied : Path → StateM σ Bool
  createDirectory : Path → StateM σ (Except SystemError Unit)
  /-- The entries of a directory, each a name or an error. -/
  listDirectory : Path → StateM σ (Except SystemError (List (Except SystemError FileName)))
  /-- Runs a command line in a directory until it ends. -/
  launch : String → Path → StateM σ (Except External.Error External.Result)

variable {σ : Type}

/-! ## The session -/

structure Session where
  directory : Path
  theme : Theme := {}
deriving DecidableEq, Repr

namespace Session

/-- A session starts in an absolute path at which there is a directory. -/
def start? (host : Host σ) (directory : Path) : StateM σ (Option Session) := do
  if directory.isAbsolute then
    if ← host.isDirectory directory then return some { directory }
    else return none
  else return none

/-- The session in another directory, if there is a directory at that path. -/
def enter? (host : Host σ) (session : Session) (directory : Path) : StateM σ (Option Session) := do
  if ← host.isDirectory directory then return some { session with directory }
  else return none

def prompt (session : Session) : String := session.directory.display ++ "> "

end Session

end ThemedShell
