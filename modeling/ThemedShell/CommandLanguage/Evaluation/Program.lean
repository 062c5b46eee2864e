import ThemedShell.CommandLanguage.Evaluation.Basic
import ThemedShell.CommandLanguage.Verb.Variable
import ThemedShell.Path.Normal
import ThemedShell.Utility.Basic

/-!
# Evaluation: programs

A process becomes a program by the path of its file. Shells, and the programs that run others, are
here; what the other ones do is given by `utility?`.
-/
namespace ThemedShell.CommandLanguage.Evaluation

open Text (Octets encode)

/-! ## Files of programs -/

/-- A file with these bytes in front of a name is the program of that name. -/
def programMark : Octets := 0x7f :: encode "ELF"

def programName? (content : Octets) : Option Octets :=
  if programMark.isPrefixOf content then some (content.drop programMark.length) else none

variable (perform : Task → Step Nat)

/-! ## Looking for programs -/

/-- Where programs are looked for if the environment does not say. -/
def usualPath : Octets :=
  encode "/usr/local/sbin:/usr/local/bin:/usr/sbin:/usr/bin:/sbin:/bin"

/-- The directories in which programs are looked for. -/
def searchPath (p : Process) : List Octets :=
  ((p.valueOf? (encode "PATH")).getD usualPath).splitOn (ascii ':')

/-- Whether a file could be a program: it is there, and no directory. -/
def isProgramFile (p : Process) (path : Octets) : Bool :=
  match FileTree.find p.world.root p.here ⟨path⟩ true with
  | .ok (.file _ _) => true
  | _ => false

/-- The path of the program with a name, or why there is none. -/
def programPath (p : Process) (name : Octets) : Except String Octets :=
  if name.contains Path.slash then .ok name
  else
    let candidates := (searchPath p).map fun directory => ((Path.mk directory).join ⟨name⟩).bytes
    match candidates.find? (isProgramFile p) with
    | some path => .ok path
    | none =>
      if candidates.any fun path => FileTree.isDirectoryAt p.world.root p.here ⟨path⟩ then
        .error "Permission denied"
      else .error "not found"

/-- The state of a shell that has just been started as a program. -/
def freshShell (p : Process) (name : Octets) : Process :=
  { world := p.world
    here := p.here
    path := .ofNames true p.here
    number := p.number
    shellNumber := p.number
    name
    bindings := [
      (encode "PWD", { value := some (Path.ofNames true p.here).bytes }),
      (encode "IFS", { value := some (encode " \t\n") }),
      (encode "OPTIND", { value := some (encode "1") }),
      (encode "PS1", { value := some (encode "# ") }),
      (encode "PS2", { value := some (encode "> ") }),
      (encode "PS4", { value := some (encode "+ ") })]
      ++ (p.bindings.filter fun (name, v) => v.exported && !own.contains name)
      ++ if (p.environment.lookup (encode "PATH")).isSome then []
        else [(encode "PATH", { value := some usualPath })]
    files := p.files }
where
  /-- The variables that a shell sets by itself. -/
  own : List Octets := ["PWD", "IFS", "OPTIND", "PS1", "PS2", "PS4"].map encode

/-- Reads the options of a shell: whether it is given its program, and what follows the options. -/
def shellOptions : List Octets → Bool → Step (Bool × List Octets)
  | [], given => return (given, [])
  | [argument], given => do
    if argument == encode "--" then return (given, [])
    let (isOption, isGiven, _) ← option argument
    return if isOption then (given || isGiven, []) else (given, [argument])
  | argument :: name :: rest, given => do
    if argument == encode "--" || argument == encode "-" then return (given, name :: rest)
    let (isOption, isGiven, named) ← option argument
    if !isOption then return (given, argument :: name :: rest)
    if named then
      let _ ← Verb.setNamed Step.abort (argument.head? == some (ascii '-')) name
      shellOptions rest (given || isGiven)
    else shellOptions (name :: rest) (given || isGiven)
where
  /-- Whether an argument is an option, whether it says that the program is given, and whether the
  next argument names an option. -/
  option (argument : Octets) : Step (Bool × Bool × Bool) := do
    match argument with
    | sign :: letters =>
      let isOn := asChar sign == '-'
      if (isOn || asChar sign == '+') && !letters.isEmpty then
        let given := letters.contains (ascii 'c')
        let named ← Verb.setLetters Step.abort isOn (letters.filter (· ≠ ascii 'c'))
        return (true, isOn && given, named)
      else return (argument == encode "-", false, false)
    | [] => return (false, false, false)

/-- Becomes a shell. -/
def shell (arguments : List Octets) : Step Nat := settled do
  modify fun p => { freshShell p (encode "sh") with line := 0 }
  let (given, operands) ← shellOptions arguments false
  let start (text : Octets) : Step Nat := do
    modify fun p => { p with line := 1 }
    asShell perform (runText perform {} "" text)
  match given, operands with
  | true, [] => Step.abort (encode "-c requires an argument")
  | true, text :: rest =>
    modify fun p =>
      { p with name := rest.head?.getD p.name, arguments := rest.drop 1 }
    start text
  | false, [] =>
    match ← Step.readAll 0 with
    | .ok text => start text
    | .error _ => return 0
  | false, file :: rest =>
    let p ← get
    match FileTree.readFile p.world.root p.here ⟨file⟩ with
    | .ok content =>
      modify fun p => { p with name := file, arguments := rest }
      start content.toList
    | .error .isDirectory => return 0
    | .error e =>
      Step.abort (encode "cannot open " ++ file ++ encode (": " ++ Step.describe e "No such file"))

/-- Runs a program for another one, as a message of that one says if it is not there. -/
def runFor (user : String) (words : List Octets) : Step Nat := do
  match words with
  | [] => return 0
  | name :: arguments =>
    match programPath (← get) name with
    | .ok path =>
      if isProgramFile (← get) path then perform (.program path name arguments) else missing name
    | .error _ => missing name
where
  /-- There is no such program. -/
  missing (name : Octets) : Step Nat := do
    let shown := if user == "env" then Utility.quoted name else Utility.quotedIfNeeded name
    Utility.complain user (shown ++ encode ": No such file or directory")
    return 127

/-- Changes the environment and then runs a program in it, or shows it. -/
def env : List Octets → Step Nat
  | [] => do
    for (name, value) in (← get).environment do
      Step.out (name ++ [ascii '='] ++ value ++ [ascii '\n'])
    return 0
  | argument :: rest => do
    if argument == encode "-i" || argument == encode "-" then
      modify fun p => { p with bindings := [] }
      env rest
    else if argument == encode "-u" then
      match rest with
      | name :: rest =>
        modify fun p => p.forget name
        env rest
      | [] => Utility.misuse "env" "option requires an argument -- 'u'" 125
    else if argument == encode "--" then runFor perform "env" rest
    else match Verb.splitAssignment argument with
      | (name, some value) =>
        modify fun p => p.setVariable name { value := some value, exported := true }
        env rest
      | (_, none) => runFor perform "env" (argument :: rest)

/-- The words of a text, for `xargs`: quotes keep blanks. -/
def quotedWords : Option UInt8 → Option Octets → Octets → List Octets
  | _, none, [] => []
  | _, some word, [] => [word.reverse]
  | some quote, word, b :: rest =>
    if b == quote then quotedWords none word rest
    else quotedWords (some quote) (some (b :: word.getD [])) rest
  | none, word, b :: rest =>
    if asChar b == '\'' || asChar b == '"' then quotedWords (some b) (some (word.getD [])) rest
    else if " \t\n".toList.contains (asChar b) then
      match word with
      | some word => word.reverse :: quotedWords none none rest
      | none => quotedWords none none rest
    else if asChar b == '\\' then
      match rest with
      | c :: rest => quotedWords none (some (c :: word.getD [])) rest
      | [] => [(word.getD []).reverse]
    else quotedWords none (some (b :: word.getD [])) rest

/-- A text with another one in the place of each mark. -/
def replaceMark (mark text : Octets) : Nat → Octets → Octets
  | 0, s => s
  | _ + 1, [] => []
  | fuel + 1, b :: rest =>
    if !mark.isEmpty && mark.isPrefixOf (b :: rest) then
      text ++ replaceMark mark text fuel ((b :: rest).drop mark.length)
    else b :: replaceMark mark text fuel rest

/-- Runs programs one after the other; the status tells whether all went well. -/
def runEach : Nat → List (List Octets) → Step Nat
  | status, [] => return status
  | status, words :: rest => do
    let one ← Child.run (runFor perform "xargs" words)
    if one = 126 || one = 127 then return one
    else if one = 255 then return 124
    else if one > 128 then return 125
    else runEach (if one = 0 then status else 123) rest

/-- Runs a program with arguments that are read. -/
def xargs (arguments : List Octets) : Step Nat := do
  let c := Utility.readCall "0rt" "nIdLsPE" [("--null", '0'), ("--no-run-if-empty", 'r')] false
    (arguments.length + 1) arguments {}
  match c.unknown with
  | some option => Utility.unknownOption "xargs" option 1
  | none =>
    let input := match ← Step.readAll 0 with
      | .ok bytes => bytes
      | .error _ => []
    let words := if c.operands.isEmpty then [encode "echo"] else c.operands
    match c.value? 'I' with
    | some mark =>
      let one (line : Octets) : List Octets := words.map fun word =>
        replaceMark mark line (word.length + 1) word
      let lines := (Utility.linesOf input).filter (!·.isEmpty)
      runEach perform 0 (lines.map fun line =>
        one (line.dropWhile fun b => Expansion.isBlankByte b))
    | none =>
      let separated (b : UInt8) : List Octets :=
        let pieces := input.splitOn b
        if pieces.getLast? = some [] then pieces.dropLast else pieces
      let items := if c.has '0' then separated 0
        else match c.value? 'd' with
          | some (b :: _) => separated b
          | _ => quotedWords none none input
      let groups : List (List Octets) := match (c.value? 'n').bind Utility.toNat? with
        | some n =>
          if n = 0 then [items]
          else (List.range ((items.length + n - 1) / n)).map fun i => (items.drop (i * n)).take n
        | none => if items.isEmpty && c.has 'r' then [] else [items]
      runEach perform 0 (groups.map (words ++ ·))

/-- Runs a program behind the options and so many operands of another one. -/
def runBehind (user : String) (operands : Nat) (arguments : List Octets) : Step Nat :=
  let rest := arguments.dropWhile fun a => a.head? == some (ascii '-')
  runFor perform user (rest.drop operands)

/-- What the program of a name does. -/
def becomeNamed (utility? : Octets → Option (List Octets → Step Nat)) (name : Octets)
    (arguments : List Octets) : Step Nat :=
  if name == encode "sh" || name == encode "dash" then shell perform arguments
  else if name == encode "env" then env perform arguments
  else if name == encode "xargs" then xargs perform arguments
  else if name == encode "timeout" then runBehind perform "timeout" 1 arguments
  else if name == encode "nice" then runBehind perform "nice" 0 arguments
  else if name == encode "nohup" then runBehind perform "nohup" 0 arguments
  else if name == encode "setsid" then runBehind perform "setsid" 0 arguments
  else match utility? name with
    | some utility => utility arguments
    | none => return 127

/-- The program that a script asks for in its first line, with its argument. -/
def interpreterOf (content : Octets) : Option (List Octets) :=
  if (encode "#!").isPrefixOf content then
    let line := (content.drop 2).takeWhile fun b => asChar b != '\n'
    let words := (line.splitOnP Expansion.isBlankByte).filter (!·.isEmpty)
    match words with
    | [] => none
    | program :: rest => some (program :: if rest.isEmpty then [] else [[ascii ' '].intercalate rest])
  else none

/-- Becomes the program in a file. -/
def become (utility? : Octets → Option (List Octets → Step Nat)) (path name : Octets)
    (arguments : List Octets) : Step Nat := do
  let p ← get
  let refused (message : String) (status : Nat) : Step Nat := do
    Step.complain (name ++ encode (": " ++ message))
    return status
  match FileTree.find p.world.root p.here ⟨path⟩ true with
  | .error e =>
    let isMissing := [SystemError.noSuchEntry, .notDirectory, .tooManyLinks, .nameTooLong].contains e
    refused (Step.describe e "not found") (if isMissing then 127 else 126)
  | .ok (.file content true) =>
    let content := content.toList
    match programName? content with
    | some program => becomeNamed perform utility? program arguments
    | none =>
      match interpreterOf content with
      | some (program :: options) =>
        if isProgramFile p program then
          perform (.program program program (options ++ path :: arguments))
        else refused "not found" 127
      | _ => shell perform (path :: arguments)
  | .ok _ => refused "Permission denied" 126

end ThemedShell.CommandLanguage.Evaluation
