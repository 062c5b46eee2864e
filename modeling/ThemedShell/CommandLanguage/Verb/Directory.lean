import ThemedShell.CommandLanguage.Conditions
import ThemedShell.CommandLanguage.Verb.Basic
import ThemedShell.Path.Normal

/-!
# Verbs: directories and conditions

`cd` and `pwd` keep the path that led to the current directory, with the links in it. `test` asks
about files, texts and numbers.
-/
namespace ThemedShell.CommandLanguage.Verb

open Text (Octets encode)

/-! ## Directories -/

def physicalPath (p : Process) : Path := .ofNames true p.here

def pwd (arguments : List Octets) : Step Nat := do
  match options "LP" arguments with
  | .error b => wrong "pwd" (illegalOption b)
  | .ok (letters, _) =>
    let p ← get
    let path := if letters.getLast? = some 'P' then physicalPath p else p.path
    Step.out (path.bytes ++ [ascii '\n'])
    return 0

/-- A path by its text alone, in which exactly two slashes at the start stay two. -/
def logicalPath (path : Path) : Path :=
  if (path.bytes.takeWhile (· == Path.slash)).length = 2
  then ⟨Path.slash :: path.normalize.bytes⟩ else path.normalize

/-- Goes to a directory. The path is taken by its text, unless links are to be followed first. -/
def enter (physical : Bool) (target : Octets) : Step Bool := do
  let p ← get
  let path : Path := if physical then ⟨target⟩ else logicalPath (p.path.join ⟨target⟩)
  match FileTree.locate p.world.root p.here path true with
  | .error _ => return false
  | .ok location =>
    if !FileTree.isDirectoryAt p.world.root p.here path then return false
    let path := if physical then .ofNames true location else path
    modify fun p =>
      let p := (p.assign (encode "OLDPWD") p.path.bytes).assign (encode "PWD") path.bytes
      { p with here := location, path }
    return true

/-- The directories in which a path may begin, as `CDPATH` lists them. -/
def startsFor (p : Process) (target : Octets) : List Octets :=
  let firstStep := target.takeWhile (· ≠ Path.slash)
  if target.head? == some Path.slash || firstStep == FileTree.oneDot
      || firstStep == FileTree.twoDots then []
  else match p.valueOf? (encode "CDPATH") with
    | none => []
    | some list => list.splitOn (ascii ':')

def cd (arguments : List Octets) : Step Nat := do
  match options "LP" arguments with
  | .error b => wrong "cd" (illegalOption b)
  | .ok (letters, operands) =>
    let p ← get
    let physical := letters.getLast? = some 'P'
    let (target, shown) := match operands with
      | [] => (p.value "HOME", false)
      | target :: _ =>
        if isText target "-" then (p.value "OLDPWD", true) else (target, false)
    let target := if target.isEmpty then FileTree.oneDot else target
    let candidates := (startsFor p target).map fun start =>
      if start.isEmpty then (target, shown) else ((Path.join ⟨start⟩ ⟨target⟩).bytes, true)
    tryEach physical (candidates ++ [(target, shown)]) target
where
  /-- Goes to the first directory that is there; the path is shown if it is not as written. -/
  tryEach (physical : Bool) : List (Octets × Bool) → Octets → Step Nat
    | [], target => wrong "cd" (encode "can't cd to " ++ target)
    | (path, shown) :: rest, target => do
      if ← enter physical path then
        if shown then Step.out ((← get).path.bytes ++ [ascii '\n'])
        return 0
      else tryEach physical rest target

/-! ## Conditions -/

/-- What the conditions of a process are about. -/
def facts (p : Process) : Conditions.Facts where
  node name follow := match FileTree.find p.world.root p.here ⟨name⟩ follow with
    | .ok node => some node
    | .error _ => none
  same a b :=
    match FileTree.locate p.world.root p.here ⟨a⟩ true,
      FileTree.locate p.world.root p.here ⟨b⟩ true with
    | .ok a, .ok b => a == b
    | _, _ => false

def condition (verb : String) (words : List Octets) : Step Nat := do
  match Conditions.evaluate (facts (← get)) (words.length + 1) words with
  | .ok holds => return if holds then 0 else 1
  | .error (word, message) =>
    wrong verb ((word.map (· ++ encode ": ")).getD [] ++ encode message)

def test (arguments : List Octets) : Step Nat := condition "test" arguments

def bracket (arguments : List Octets) : Step Nat :=
  if arguments.getLast? = some (encode "]") then condition "[" arguments.dropLast
  else wrong "[" (encode "missing ]")

end ThemedShell.CommandLanguage.Verb
