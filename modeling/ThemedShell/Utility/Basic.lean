import ThemedShell.CommandLanguage.Process

/-!
# Utilities: what they share

Utilities read options and operands, print messages that begin with their name, and quote the names
of files where these could be misread.
-/
namespace ThemedShell.Utility

open Text (Octets)
open CommandLanguage

/-! ## Texts -/

/-- The bytes of a text. -/
def bytes (s : String) : Octets := Text.encode s

def decimal (n : Nat) : Octets := bytes (toString n)

/-- The number that a text of digits is. -/
def toNat? (s : Octets) : Option Nat :=
  if s.isEmpty || !s.all isDigit then none
  else some (s.foldl (fun n b => n * 10 + (b.toNat - 48)) 0)

/-- The number that a text of digits with a sign is. -/
def toInt? (s : Octets) : Option Int :=
  match s with
  | b :: rest =>
    if asChar b == '-' then (toNat? rest).map fun n => -n
    else if asChar b == '+' then (toNat? rest).map Int.ofNat
    else (toNat? s).map Int.ofNat
  | [] => none

/-- The lines of a text, without their ends; what follows the last end is a line if there is any. -/
def linesOf (s : Octets) : List Octets :=
  let pieces := s.splitOn (ascii '\n')
  if pieces.getLast? = some [] then pieces.dropLast else pieces

/-- Lines, each with its end. -/
def unlines (lines : List Octets) : Octets := (lines.map (· ++ [ascii '\n'])).flatten

def padLeft (width : Nat) (s : Octets) : Octets :=
  List.replicate (width - s.length) (ascii ' ') ++ s

def lowerByte (b : UInt8) : UInt8 := if 65 ≤ b && b ≤ 90 then b + 32 else b

/-! ## Names in messages -/

/-- A byte that needs no quotes. -/
def isSafe (b : UInt8) : Bool :=
  33 ≤ b && b ≤ 126 && !("!\"$&'()*;<=>?[\\]^`|".toList.contains (asChar b))

def octalEscape (b : UInt8) : Octets :=
  let n := b.toNat
  bytes "\\" ++ decimal (n / 64) ++ decimal (n / 8 % 8) ++ decimal (n % 8)

/-- The escape of a byte that cannot be shown. -/
def controlEscape (b : UInt8) : Octets :=
  match asChar b with
  | '\n' => bytes "\\n"
  | '\t' => bytes "\\t"
  | '\r' => bytes "\\r"
  | '\x07' => bytes "\\a"
  | '\x08' => bytes "\\b"
  | '\x0b' => bytes "\\v"
  | '\x0c' => bytes "\\f"
  | _ => octalEscape b

def isShown (b : UInt8) : Bool := 32 ≤ b && b ≤ 126

/-- What stands between single quotes; bytes that cannot be shown stand in quotes of their own. -/
def quoteFrom (escaping : Bool) : Octets → Octets
  | [] => if escaping then bytes "'" else []
  | b :: rest =>
    if isShown b then
      let before := if escaping then bytes "''" else []
      before ++ (if asChar b == '\'' then bytes "'\\''" else [b]) ++ quoteFrom false rest
    else
      let before := if escaping then [] else bytes "'$'"
      before ++ controlEscape b ++ quoteFrom true rest

/-- A name between quotes. -/
def quoted (name : Octets) : Octets :=
  if name.all isShown && name.contains (ascii '\'')
      && !name.any (fun b => "$`\"\\!".toList.contains (asChar b)) then
    bytes "\"" ++ name ++ bytes "\""
  else
    let ends := if name.getLast?.any (fun b => !isShown b) then [] else bytes "'"
    bytes "'" ++ quoteFrom false name ++ ends

/-- A name, between quotes if it could be misread. -/
def quotedIfNeeded (name : Octets) : Octets :=
  let odd := match name with
    | [] => true
    | b :: _ => asChar b == '#' || asChar b == '~'
  if odd || !name.all isSafe then quoted name else name

/-! ## Messages -/

/-- A message of a utility. -/
def complain (name : String) (message : Octets) : Step Unit :=
  Step.err (bytes name ++ bytes ": " ++ message ++ [ascii '\n'])

def complainText (name message : String) : Step Unit := complain name (bytes message)

/-- A message about a file: what could not be done, the name in quotes, and why. -/
def complainOf (name action : String) (file : Octets) (e : SystemError) : Step Unit :=
  complain name (bytes action ++ bytes " " ++ quoted file ++ bytes (": " ++ reason e))
where
  /-- The description of an error without its number. -/
  reason : SystemError → String
    | .os n => SystemError.describe n
    | .text message => message

def reason (e : SystemError) : String := complainOf.reason e

/-- Points to the help after a wrong call. -/
def seeHelp (name : String) : Step Unit :=
  Step.errText ("Try '" ++ name ++ " --help' for more information.\n")

/-- A wrong call: a message and the way to the help. -/
def misuse (name message : String) (status : Nat) : Step Nat := do
  complainText name message
  seeHelp name
  return status

/-! ## Options -/

/-- Options and operands: letters, those with their values, and what is left. -/
structure Call where
  letters : List Char := []
  values : List (Char × Octets) := []
  operands : List Octets := []
  /-- An option that the utility does not have. -/
  unknown : Option Octets := none

def Call.has (c : Call) (letter : Char) : Bool := c.letters.contains letter

/-- The last value of an option. -/
def Call.value? (c : Call) (letter : Char) : Option Octets :=
  (c.values.reverse.find? fun v => v.1 == letter).map Prod.snd

/-- The letters of one argument: switches, up to one that takes the rest or the next argument. -/
def readLetters (switches valued : String) : Octets → List Octets → Call → Call × List Octets
  | [], others, c => (c, others)
  | b :: rest, others, c =>
    let letter := asChar b
    if switches.toList.contains letter then
      readLetters switches valued rest others { c with letters := c.letters ++ [letter] }
    else if valued.toList.contains letter then
      match rest, others with
      | [], value :: others => ({ c with values := c.values ++ [(letter, value)] }, others)
      | _, _ => ({ c with values := c.values ++ [(letter, rest)] }, others)
    else ({ c with unknown := some [b] }, others)

/-- Reads the options among arguments. Long options are given with the letters they stand for; an
option may stand behind operands if `anywhere` says so. -/
def readCall (switches valued : String) (long : List (String × Char)) (anywhere : Bool) :
    Nat → List Octets → Call → Call
  | 0, _, c => c
  | _ + 1, [], c => c
  | fuel + 1, argument :: rest, c =>
    let go := readCall switches valued long anywhere fuel
    if argument == bytes "--" then { c with operands := c.operands ++ rest }
    else if (bytes "--").isPrefixOf argument then
      let name := argument.takeWhile fun b => asChar b != '='
      match long.find? fun (text, _) => bytes text = name with
      | some (_, letter) =>
        let value := argument.drop (name.length + 1)
        if !valued.toList.contains letter then go rest { c with letters := c.letters ++ [letter] }
        else if name.length < argument.length then
          go rest { c with values := c.values ++ [(letter, value)] }
        else go (rest.drop 1) { c with values := c.values ++ [(letter, rest.head?.getD [])] }
      | none => { c with unknown := some argument }
    else if (bytes "-").isPrefixOf argument && argument != bytes "-" then
      let (c, rest) := readLetters switches valued (argument.drop 1) rest c
      if c.unknown.isSome then c else go rest c
    else if anywhere then go rest { c with operands := c.operands ++ [argument] }
    else { c with operands := c.operands ++ argument :: rest }

def call (switches valued : String) (long : List (String × Char)) (arguments : List Octets) :
    Call :=
  readCall switches valued long true (arguments.length + 1) arguments {}

/-- The message about an option that the utility does not have. -/
def unknownOption (name : String) (option : Octets) (status : Nat) : Step Nat := do
  if option.length > 1 then
    complain name (bytes "unrecognized option '" ++ option ++ bytes "'")
  else
    complain name (bytes "invalid option -- '" ++ option ++ bytes "'")
  seeHelp name
  return status

/-- Runs a utility whose options are known. -/
def withCall (name switches valued : String) (long : List (String × Char)) (status : Nat)
    (arguments : List Octets) (run : Call → Step Nat) : Step Nat :=
  let c := call switches valued long arguments
  match c.unknown with
  | some option => unknownOption name option status
  | none => run c

/-! ## Input -/

/-- What a file holds. -/
def readPath (file : Octets) : Step (Except SystemError Octets) := do
  if file == bytes "-" then Step.readAll 0
  else
    let p ← get
    return (FileTree.readFile p.world.root p.here ⟨file⟩).map (·.toList)

/-- What a utility says about a file that it cannot read. -/
def inputProblem (name : String) (file : Octets) (e : SystemError) : Octets :=
  let isOpened := e == .isDirectory
  let what := match name, isOpened with
    | "head", true | "tail", true | "uniq", true => bytes "error reading " ++ quoted file
    | "head", false | "tail", false => bytes "cannot open " ++ quoted file ++ bytes " for reading"
    | "sort", true => bytes "read failed: " ++ quotedIfNeeded file
    | "sort", false => bytes "cannot read: " ++ quotedIfNeeded file
    | "tac", true | "od", true => quotedIfNeeded file ++ bytes ": read error"
    | "tac", false => bytes "failed to open " ++ quoted file ++ bytes " for reading"
    | "rev", _ => bytes "cannot open " ++ file
    | _, _ => quotedIfNeeded file
  what ++ bytes (": " ++ reason e)

/-- The content of each file that can be read, with its name, and whether all could be. Without
names, the standard input is read. -/
def readFiles (name : String) : List Octets → Step (List (Octets × Octets) × Bool)
  | [] => return ([], true)
  | file :: rest => do
    match ← readPath file with
    | .ok content =>
      let (others, ok) ← readFiles name rest
      return ((file, content) :: others, ok)
    | .error e =>
      complain name (inputProblem name file e)
      let (others, _) ← readFiles name rest
      return (others, false)

def inputs (name : String) (operands : List Octets) : Step (List (Octets × Octets) × Bool) :=
  readFiles name (if operands.isEmpty then [bytes "-"] else operands)

/-- Writes what `f` makes of all input together. -/
def filter (name : String) (operands : List Octets) (f : Octets → Octets) : Step Nat := do
  let (files, ok) ← inputs name operands
  Step.out (f (files.map Prod.snd).flatten)
  return if ok then 0 else 1

end ThemedShell.Utility
