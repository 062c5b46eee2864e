import ThemedShell.CommandLanguage.Evaluation.Program
import ThemedShell.Machine
import ThemedShell.Path.Normal
import ThemedShell.Utility.Table

/-!
# The usual machine

A machine has the directories that every system has, and a file for each program.
-/
namespace ThemedShell

open Text (encode)
open CommandLanguage

namespace Machine

/-- The directories of every machine. -/
def usualDirectories : List String :=
  ["/boot", "/dev", "/etc", "/home", "/media", "/mnt", "/opt", "/proc", "/root", "/run", "/srv",
   "/sys", "/tmp", "/usr", "/usr/bin", "/usr/lib", "/usr/local", "/usr/local/bin",
   "/usr/local/sbin", "/usr/sbin", "/usr/share", "/var", "/var/tmp"]

/-- The links of every machine, with what they lead to. -/
def usualLinks : List (String × String) :=
  [("/bin", "usr/bin"), ("/lib", "usr/lib"), ("/sbin", "usr/sbin")]

/-- The file of a program. -/
def programFile (name : String) : FileTree.Node :=
  .file ⟨(Evaluation.programMark ++ encode name).toArray⟩ true

/-- Puts a thing into a tree that has room for it. -/
def place (root : FileTree.Node) (path : String) (node : FileTree.Node) : FileTree.Node :=
  match FileTree.addNode root [] (.ofString path) node with
  | .ok root => root
  | .error _ => root

/-- A machine with nothing but its programs. -/
def usual : Machine :=
  let root := usualDirectories.foldl (fun root path => place root path .empty) .empty
  let root := usualLinks.foldl (fun root (path, target) => place root path (.link (.ofString target)))
    root
  let root := place root "/dev/null" .nullDevice
  { root := Utility.names.foldl (fun root name => place root ("/usr/bin/" ++ name) (programFile name))
      root }

/-- The directories on the way to a path, from the root on. -/
def waysTo (path : Path) : List Path :=
  let names := Path.normalNames path.components
  (List.range (names.length + 1)).map fun n => .ofNames true (names.take n)

/-- Makes a directory and all above it that are not there yet. -/
def ensureDirectory (machine : Machine) (path : Path) : Machine :=
  (waysTo path).foldl (fun machine path => ((createDirectory path).run machine).2) machine

end Machine

end ThemedShell
