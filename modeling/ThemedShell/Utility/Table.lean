import ThemedShell.Utility.Files
import ThemedShell.Utility.Search
import ThemedShell.Utility.System
import ThemedShell.Utility.Text

/-!
# The utilities by name
-/
namespace ThemedShell.Utility

open Text (Octets)
open CommandLanguage

/-- What the program of each name does. -/
def table : List (String × (List Octets → Step Nat)) := [
  ("[", Verb.bracket), ("arch", fun _ => say "x86_64"), ("basename", basename), ("cat", cat),
  ("chmod", chmod), ("cp", cp), ("cut", cut), ("dirname", dirname), ("echo", echo),
  ("egrep", grepAs "grep" ['E']), ("expr", expr), ("false", fun _ => return 1),
  ("fgrep", grepAs "grep" ['F']), ("find", find), ("grep", grep), ("head", head),
  ("hostname", fun _ => say "localhost"), ("id", showUser), ("ln", ln), ("ls", ls), ("mkdir", mkdir),
  ("mv", mv), ("nl", nl), ("nproc", fun _ => say "1"), ("od", od), ("printenv", printenv),
  ("printf", printf), ("pwd", pwd), ("readlink", readlink), ("realpath", realpath), ("rev", rev),
  ("rm", rm), ("rmdir", rmdir), ("sed", sed), ("seq", seq), ("sleep", sleep), ("sort", sort),
  ("sync", fun _ => return 0), ("tac", tac), ("tail", tail), ("tee", tee), ("test", Verb.test),
  ("touch", touch), ("tr", tr), ("true", fun _ => return 0), ("tty", tty), ("uname", uname),
  ("uniq", uniq), ("wc", wc), ("which", which), ("whoami", whoami), ("yes", yes)]

def find? (name : Octets) : Option (List Octets → Step Nat) :=
  (table.find? fun utility => bytes utility.1 == name).map Prod.snd

/-- The names of all programs: utilities, and those that run others. -/
def names : List String :=
  table.map Prod.fst ++ ["dash", "env", "nice", "nohup", "setsid", "sh", "timeout", "xargs"]

end ThemedShell.Utility
