import ThemedShell.CommandLanguage.Expansion
import ThemedShell.CommandLanguage.Verb.Basic

/-!
# Verbs: variables, options and arguments

These verbs change what expansion finds: variables, their marks, the options of the shell and its
arguments. `read` takes the values of variables from the input.
-/
namespace ThemedShell.CommandLanguage.Verb

open Text (Octets encode)
open Expansion (decimal)

/-! ## Variables -/

/-- The two sides of an argument that is an assignment. -/
def splitAssignment (argument : Octets) : Octets × Option Octets :=
  let name := argument.takeWhile fun b => asChar b != '='
  (name, if name.length < argument.length then some (argument.drop (name.length + 1)) else none)

/-- The variables that a verb is about, as commands that would set them. -/
def listVariables (start : String) (chosen : Variable → Bool) : Step Unit := do
  let p ← get
  let lines := (p.bindings.filter fun v => chosen v.2).map fun (name, v) =>
    encode start ++ name
      ++ (v.value.map fun value => [ascii '='] ++ quoted value).getD [] ++ [ascii '\n']
  Step.out (lines.mergeSort fun a b => decide (a ≤ b)).flatten

/-- Gives the variables of the arguments their values and marks them. -/
def markEach (verb : String) (mark : Variable → Variable) : List Octets → Step Unit
  | [] => return
  | argument :: rest => do
    let (name, value) := splitAssignment argument
    if !isName name then abort verb (name ++ encode ": bad variable name")
    if let some value := value then
      if (← get).isReadOnly name then abort verb (Expansion.readOnlyMessage name)
      modify fun p => p.assign name value
    modify fun p =>
      p.setVariable name (mark ((p.bindings.lookup name).getD { value := none }))
    markEach verb mark rest

def declare (verb : String) (chosen : Variable → Bool) (mark : Variable → Variable)
    (arguments : List Octets) : Step Nat := do
  let (letters, operands) ← optionsOf verb "p" arguments
  if letters.contains 'p' || operands.isEmpty then listVariables (verb ++ " ") chosen
  else markEach verb mark operands
  return 0

def exports (arguments : List Octets) : Step Nat :=
  declare "export" (·.exported) ({ · with exported := true }) arguments

def readOnly (arguments : List Octets) : Step Nat :=
  declare "readonly" (·.readOnly) ({ · with readOnly := true }) arguments

def unset (arguments : List Octets) : Step Nat := do
  let (letters, operands) ← optionsOf "unset" "fv" arguments
  for name in operands do
    if letters.getLast? = some 'f' then
      modify fun p => { p with functions := p.functions.filter fun f => f.1 ≠ name }
    else
      if !isName name then abort "unset" (name ++ encode ": bad variable name")
      if (← get).isReadOnly name then abort "unset" (Expansion.readOnlyMessage name)
      modify fun p => p.forget name
  return 0

/-- Makes variables local to the function that runs. -/
def localVariables (arguments : List Octets) : Step Nat := do
  match (← get).locals with
  | [] => abort "local" (encode "not in a function")
  | frame :: frames =>
    let mut saved := frame
    for argument in arguments do
      let (name, value) := splitAssignment argument
      if !isName name then abort "local" (name ++ encode ": bad variable name")
      let before := (← get).bindings.lookup name
      if (saved.lookup name).isNone then saved := (name, before) :: saved
      if let some value := value then modify fun p => p.assign name value
    modify fun p => { p with locals := saved :: frames }
    return 0

/-! ## Options and arguments -/

/-- The options that have names. -/
def optionNames : List (Char × String) :=
  [('e', "errexit"), ('f', "noglob"), ('I', "ignoreeof"), ('i', "interactive"), ('m', "monitor"),
   ('n', "noexec"), ('s', "stdin"), ('x', "xtrace"), ('v', "verbose"), ('V', "vi"), ('E', "emacs"),
   ('C', "noclobber"), ('a', "allexport"), ('b', "notify"), ('u', "nounset")]

def setOption (o : Options) (letter : Char) (value : Bool) : Options :=
  match letter with
  | 'e' => { o with exitOnError := value }
  | 'f' => { o with noGlobbing := value }
  | 'n' => { o with noExecution := value }
  | 'x' => { o with trace := value }
  | 'C' => { o with noClobber := value }
  | 'a' => { o with allExport := value }
  | 'u' => { o with refuseUnset := value }
  | _ => o

def optionIsSet (o : Options) (letter : Char) : Bool :=
  match letter with
  | 'e' => o.exitOnError
  | 'f' => o.noGlobbing
  | 'n' => o.noExecution
  | 'x' => o.trace
  | 'C' => o.noClobber
  | 'a' => o.allExport
  | 'u' => o.refuseUnset
  | _ => false

/-- Shows all options, for reading or as commands that would set them. -/
def listOptions (asCommands : Bool) : Step Unit := do
  let o := (← get).options
  if !asCommands then Step.outText "Current option settings\n"
  for (letter, name) in optionNames do
    let isSet := optionIsSet o letter
    if asCommands then
      Step.outText ("set " ++ (if isSet then "-o " else "+o ") ++ name ++ "\n")
    else
      let padding := String.ofList (List.replicate (16 - name.length) ' ')
      Step.outText (name ++ padding ++ (if isSet then "on" else "off") ++ "\n")

/-- Sets the options of one argument, which begins with a sign; `true` if it asks for a name. A letter
that is no option is refused. -/
def setLetters (refuse : Octets → Step Bool) (value : Bool) : Octets → Step Bool
  | [] => return false
  | b :: rest => do
    let letter := asChar b
    if letter == 'o' then
      let _ ← setLetters refuse value rest
      return true
    else if optionNames.any (·.1 == letter) then
      modify fun p => { p with options := setOption p.options letter value }
      setLetters refuse value rest
    else refuse (encode "Illegal option " ++ encode (if value then "-" else "+") ++ [b])

/-- Sets the option of a name. -/
def setNamed (refuse : Octets → Step Bool) (value : Bool) (name : Octets) : Step Bool := do
  match optionNames.find? fun option => isText name option.2 with
  | some (letter, _) =>
    modify fun p => { p with options := setOption p.options letter value }
    return true
  | none => refuse (encode "Illegal option -o " ++ name)

/-- Sets options, up to the first argument that is none. Gives what is left, if the arguments are
to be replaced. -/
def setOptions : List Octets → Step (Option (List Octets))
  | [] => return none
  | argument :: rest => do
    if isText argument "--" then return some rest
    match argument with
    | sign :: letters =>
      if (asChar sign != '-' && asChar sign != '+') then return some (argument :: rest)
      let value := asChar sign == '-'
      if letters.isEmpty then
        if value then
          modify fun p => { p with options := { p.options with trace := false } }
        return if rest.isEmpty then none else some rest
      if ← setLetters (abort "set") value letters then
        match rest with
        | [] =>
          listOptions (!value)
          return none
        | name :: rest =>
          let _ ← setNamed (abort "set") value name
          setOptions rest
      else setOptions rest
    | [] => return some (argument :: rest)

def set (arguments : List Octets) : Step Nat := do
  if arguments.isEmpty then listVariables "" (·.value.isSome)
  if let some left ← setOptions arguments then
    modify fun p => { p with arguments := left }
  return 0

def shift (arguments : List Octets) : Step Nat := do
  let n ← match arguments with
    | [] => pure 1
    | argument :: _ => numberOf "shift" argument
  let p ← get
  if p.arguments.length < n then abort "shift" (encode "can't shift that many")
  modify fun p => { p with arguments := p.arguments.drop n }
  return 0

/-- Takes one option after the other out of the arguments. -/
def getopts (arguments : List Octets) : Step Nat := do
  match arguments with
  | known :: name :: given =>
    let p ← get
    let list := if given.isEmpty then p.arguments else given
    let index := (number? (p.value "OPTIND")).getD 1
    let index := if index = 0 then 1 else index
    let letterAt := if p.optionPlace.1 = index then p.optionPlace.2 else 1
    let quiet := known.head?.any (asChar · == ':')
    let finish (letter : Octets) (value : Option Octets) (index place status : Nat) :
        Step Nat := do
      modify fun p =>
        let p := match value with
          | some v => p.assign (encode "OPTARG") v
          | none => p.forget (encode "OPTARG")
        let p := p.assign (encode "OPTIND") (decimal index)
        { p.assign name letter with optionPlace := (index, place) }
      return status
    let argument := list[index - 1]?.getD []
    let ended := argument.length < 2 || argument.head? != some (ascii '-')
    if isText argument "--" then finish (encode "?") none (index + 1) 1 1
    else if ended then finish (encode "?") none index 1 1
    else
      let letter := argument[letterAt]?.getD 0
      let isLast := argument.length ≤ letterAt + 1
      let (after, place) := if isLast then (index + 1, 1) else (index, letterAt + 1)
      let place? := known.findIdx? (· == letter)
      match if asChar letter == ':' then none else place? with
      | none =>
        if quiet then finish (encode "?") (some [letter]) after place 0
        else
          Step.err (illegalOption letter ++ [ascii '\n'])
          finish (encode "?") none after place 0
      | some i =>
        if known[i + 1]? != some (ascii ':') then finish [letter] none after place 0
        else if !isLast then finish [letter] (some (argument.drop (letterAt + 1))) (index + 1) 1 0
        else match list[index]? with
          | some value => finish [letter] (some value) (index + 2) 1 0
          | none =>
            if quiet then finish (encode ":") (some [letter]) (index + 1) 1 0
            else
              Step.err (missingArgument letter ++ [ascii '\n'])
              finish (encode "?") none (index + 1) 1 0
  | _ => wrong "getopts" (encode "Usage: getopts optstring var [arg]")

/-! ## Input -/

/-- A line for `read`: an escaped line end joins the next line, other escaped bytes are kept as they
are. -/
def joinedLine (raw : Bool) : Nat → List Glyph → Step (List Glyph × Bool)
  | 0, read => return (read, false)
  | fuel + 1, read => do
    let p ← get
    match p.channelOf? 0 with
    | none => return (read, false)
    | some channel =>
      let ((line, ended), p) := p.readLine channel
      MonadStateOf.set p
      if raw then return (read ++ line.map fun b => ⟨b, false⟩, ended)
      let (glyphs, goesOn) := escapes line
      if goesOn && ended then joinedLine raw fuel (read ++ glyphs)
      else return (read ++ glyphs, ended)
where
  /-- The bytes of a line, and whether an escape is open at its end. -/
  escapes : Octets → List Glyph × Bool
    | [] => ([], false)
    | b :: rest =>
      if asChar b == '\\' then
        match rest with
        | [] => ([], true)
        | c :: rest =>
          let (glyphs, isOpen) := escapes rest
          (⟨c, true⟩ :: glyphs, isOpen)
      else
        let (glyphs, isOpen) := escapes rest
        (⟨b, false⟩ :: glyphs, isOpen)

/-- Distributes a line among so many variables; the last one gets what is left. -/
def distribute (separators : Octets) : Nat → List Glyph → List Octets
  | 0, _ => []
  | 1, line =>
    let body := line.dropWhile isBlank
    let trimmed := (body.reverse.dropWhile isBlank).reverse
    [Expansion.bytesOf (dropOneSeparator trimmed)]
  | n + 2, line =>
    let body := line.dropWhile isBlank
    let field := body.takeWhile fun g => !isSeparator g
    let rest := (body.drop field.length).dropWhile isBlank
    let rest := if (body.drop field.length).head?.any isBlank || rest.isEmpty then
        (if rest.head?.any fun g => isSeparator g then rest.drop 1 else rest)
      else rest.drop 1
    Expansion.bytesOf field :: distribute separators (n + 1) rest
where
  isSeparator (g : Glyph) : Bool := !g.quoted && separators.contains g.byte
  isBlank (g : Glyph) : Bool := isSeparator g && Expansion.isBlankByte g.byte
  /-- A field may have one separator behind it that is no part of it. -/
  dropOneSeparator (line : List Glyph) : List Glyph :=
    let fields := line.countP isSeparator
    if fields = 1 && line.getLast?.any isSeparator then line.dropLast else line

def read (arguments : List Octets) : Step Nat := do
  match options "rp" arguments with
  | .error b => wrong "read" (illegalOption b)
  | .ok (letters, names) =>
    let names := if letters.contains 'p' then names.drop 1 else names
    if names.isEmpty then return ← wrong "read" (encode "arg count")
    match names.find? fun name => !isName name with
    | some name => wrong "read" (name ++ encode ": bad variable name")
    | none =>
      let (line, ended) ← joinedLine (letters.contains 'r') 100000 []
      let p ← get
      let values := distribute (Expansion.separators p) names.length line
      for (name, value) in names.zip values do Expansion.assign name value
      return if ended then 0 else 1

end ThemedShell.CommandLanguage.Verb
