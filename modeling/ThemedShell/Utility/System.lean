import ThemedShell.CommandLanguage.Verb.Directory
import ThemedShell.Utility.Basic

/-!
# Utilities about the system

Utilities that know the user and the machine, look at the environment, wait, and those that do as
programs what shells also do by themselves.
-/
namespace ThemedShell.Utility

open Text (Octets)
open CommandLanguage

/-- Writes one line. -/
def say (line : String) : Step Nat := do
  Step.outText (line ++ "\n")
  return 0

/-! ## The user and the machine -/

def whoami (_ : List Octets) : Step Nat := say "root"

def showUser (arguments : List Octets) : Step Nat :=
  withCall "id" "ugGnr" "" [("--user", 'u'), ("--group", 'g'), ("--groups", 'G'), ("--name", 'n')] 1
      arguments fun c => do
    if c.has 'u' || c.has 'g' || c.has 'G' then say (if c.has 'n' then "root" else "0")
    else say "uid=0(root) gid=0(root) groups=0(root)"

def uname (arguments : List Octets) : Step Nat :=
  withCall "uname" "snmo" "" [("--kernel-name", 's'), ("--nodename", 'n'), ("--machine", 'm')] 1
      arguments fun c =>
    let parts := [('s', "Linux"), ('n', "localhost"), ('m', "x86_64"), ('o', "GNU/Linux")]
    let chosen := parts.filter fun part => c.has part.1
    say (" ".intercalate (if chosen.isEmpty then ["Linux"] else chosen.map Prod.snd))

/-- The standard input is no terminal. -/
def tty (arguments : List Octets) : Step Nat := do
  if !arguments.contains (bytes "-s") then Step.outText "not a tty\n"
  return 1

/-! ## The environment -/

/-- Shows variables of the environment. -/
def printenv (arguments : List Octets) : Step Nat := do
  let environment := (← get).environment
  if arguments.isEmpty then
    for (name, value) in environment do Step.out (name ++ bytes "=" ++ value ++ [ascii '\n'])
    return 0
  let mut status := 0
  for name in arguments do
    match environment.lookup name with
    | some value => Step.out (value ++ [ascii '\n'])
    | none => status := 1
  return status

/-- Shows where the programs of names are. -/
def which (arguments : List Octets) : Step Nat := do
  let p ← get
  let directories := (p.value "PATH").splitOn (ascii ':')
  let isProgram (path : Octets) : Bool :=
    match FileTree.find p.world.root p.here ⟨path⟩ true with
    | .ok (.file _ executable) => executable
    | _ => false
  let mut status := if arguments.isEmpty then 1 else 0
  for name in arguments do
    let candidates := if name.contains Path.slash then [name]
      else directories.map fun directory => ((Path.mk directory).join ⟨name⟩).bytes
    match candidates.find? isProgram with
    | some path => Step.out (path ++ [ascii '\n'])
    | none => status := 1
  return status

/-! ## Time -/

/-- A number of seconds, with a unit. -/
def isDuration (text : Octets) : Bool :=
  let body := if text.getLast?.any (fun b => "smhd".toList.contains (asChar b)) then text.dropLast
    else text
  let whole := body.takeWhile isDigit
  let rest := body.drop whole.length
  !body.isEmpty && (rest.isEmpty
    || (rest.head? == some (ascii '.') && (rest.drop 1).all isDigit && body.length > 1))

/-- Time does not pass. -/
def sleep (arguments : List Octets) : Step Nat := do
  if arguments.isEmpty then return ← misuse "sleep" "missing operand" 1
  match arguments.find? fun a => !isDuration a with
  | some wrong =>
    complain "sleep" (bytes "invalid time interval " ++ quoted wrong)
    seeHelp "sleep"
    return 1
  | none => return 0

/-! ## What shells also do -/

/-- Writes its arguments; escapes mean something only after `-e`. -/
def echo (arguments : List Octets) : Step Nat := do
  let isOption (a : Octets) : Bool := match a with
    | dash :: letters =>
      asChar dash == '-' && !letters.isEmpty && letters.all fun b => "neE".toList.contains (asChar b)
    | [] => false
  let options := (arguments.takeWhile isOption).flatMap (·.drop 1)
  let words := arguments.dropWhile isOption
  let text := [ascii ' '].intercalate words
  let escapes := (options.filter fun b => asChar b != 'n').getLast?.any fun b => asChar b == 'e'
  let text := if escapes then (Format.unescape (text.length + 1) text).1 else text
  Step.out (if options.contains (ascii 'n') then text else text ++ [ascii '\n'])
  return 0

def printf (arguments : List Octets) : Step Nat := do
  match arguments with
  | [] => misuse "printf" "missing operand" 1
  | format :: arguments =>
    let (text, _, status) := Format.printf format arguments
    Step.out text
    return min 1 status

def pwd (_ : List Octets) : Step Nat := do
  Step.out ((Verb.physicalPath (← get)).bytes ++ [ascii '\n'])
  return 0

/-! ## Many lines -/

/-- More lines than any pipe takes. -/
def endlessLines : Nat := 22

/-- Writes one line again and again. -/
def yes (arguments : List Octets) : Step Nat := do
  let words := if arguments.isEmpty then [bytes "y"] else arguments
  let line := [ascii ' '].intercalate words ++ [ascii '\n']
  let block := (List.replicate (65536 / line.length + 1) line).flatten
  for _ in List.range (4 * endlessLines) do Step.out block
  throw (.killed 13 (← get).number)

end ThemedShell.Utility
