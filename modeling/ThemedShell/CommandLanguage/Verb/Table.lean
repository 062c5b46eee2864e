import ThemedShell.CommandLanguage.Verb.Directory
import ThemedShell.CommandLanguage.Verb.Flow
import ThemedShell.CommandLanguage.Verb.Variable

/-!
# Verbs by name

The verbs that run further commands are not here; they belong to the evaluation.
-/
namespace ThemedShell.CommandLanguage.Verb

open Text (Octets encode)

/-! ## Verbs with little to do -/

def umask (arguments : List Octets) : Step Nat := do
  match arguments with
  | [] => Step.outText "0022\n"
  | [option] => if isText option "-S" then Step.outText "u=rwx,g=rx,o=rx\n"
  | _ => pure ()
  return 0

def ulimit (arguments : List Octets) : Step Nat := do
  if arguments.length ≤ 1 then Step.outText "unlimited\n"
  return 0

def aliases (arguments : List Octets) : Step Nat := do
  let mut status := 0
  for argument in arguments do
    if (splitAssignment argument).2.isNone then
      Step.err (encode "alias: " ++ argument ++ encode " not found\n")
      status := 1
  return status

def unalias (arguments : List Octets) : Step Nat := do
  let names := arguments.filter fun argument => argument.head? != some (ascii '-')
  for name in names do Step.err (encode "unalias: " ++ name ++ encode " not found\n")
  return if names.isEmpty then 0 else 1

/-! ## The table -/

/-- The verbs that a shell runs by itself without running other commands. -/
def all : List (String × (List Octets → Step Nat)) := [
  (":", fun _ => return 0), ("true", fun _ => return 0), ("false", fun _ => return 1),
  ("echo", echo), ("printf", printf), ("pwd", pwd), ("cd", cd), ("chdir", cd), ("test", test),
  ("[", bracket), ("break", leave), ("continue", next), ("exit", exit), ("return", giveBack),
  ("export", exports), ("readonly", readOnly), ("unset", unset), ("local", localVariables),
  ("set", set), ("shift", shift), ("getopts", getopts), ("read", read), ("trap", trap),
  ("kill", kill), ("wait", wait), ("umask", umask), ("ulimit", ulimit), ("alias", aliases),
  ("unalias", unalias), ("hash", fun _ => return 0), ("jobs", fun _ => return 0),
  ("times", fun _ => do
    Step.outText "0m0.000000s 0m0.000000s\n0m0.000000s 0m0.000000s\n"
    return 0)]

def find? (name : Octets) : Option (List Octets → Step Nat) :=
  (all.find? fun verb => isText name verb.1).map Prod.snd

end ThemedShell.CommandLanguage.Verb
