import ThemedShell.CommandLanguage.Arithmetic
import ThemedShell.CommandLanguage.Format
import ThemedShell.CommandLanguage.Process

/-!
# Verbs: what they share

Verbs are the commands that a shell runs by itself, as they work on its own state. A mistake in the
call of a special verb ends the shell, that of another verb gives the status 2.
-/
namespace ThemedShell.CommandLanguage.Verb

open Text (Octets encode)

/-! ## Mistakes -/

/-- A message about a verb, which precedes it. -/
def complain (verb : String) (message : Octets) : Step Unit :=
  Step.complain (encode (verb ++ ": ") ++ message)

/-- A wrong call of a verb. -/
def wrong (verb : String) (message : Octets) : Step Nat := do
  complain verb message
  return 2

/-- A wrong call of a special verb. -/
def abort {α : Type} (verb : String) (message : Octets) : Step α :=
  Step.abort (encode (verb ++ ": ") ++ message)

/-- The number that an argument is: digits only, and no more than fit. -/
def number? (argument : Octets) : Option Nat :=
  let n := (Arithmetic.readDigits 10 argument).1
  if argument.isEmpty || !argument.all isDigit || n > 2147483647 then none else some n

def illegalNumber (argument : Octets) : Octets := encode "Illegal number: " ++ argument

/-- The number that an argument of a special verb is. -/
def numberOf (verb : String) (argument : Octets) : Step Nat :=
  match number? argument with
  | some n => return n
  | none => abort verb (illegalNumber argument)

def isText (argument : Octets) (s : String) : Bool := argument == encode s

/-- The letters of the options at the beginning, if all are known, and what follows them. -/
def options (known : String) : List Octets → Except UInt8 (List Char × List Octets)
  | [] => .ok ([], [])
  | argument :: rest =>
    if isText argument "--" then .ok ([], rest)
    else match argument with
      | dash :: first :: more =>
        if asChar dash == '-' then
          match (first :: more).find? fun b => !known.toList.contains (asChar b) with
          | some b => .error b
          | none => (options known rest).map fun (letters, rest) =>
              ((first :: more).map asChar ++ letters, rest)
        else .ok ([], argument :: rest)
      | _ => .ok ([], argument :: rest)

def illegalOption (b : UInt8) : Octets := encode "Illegal option -" ++ [b]

def missingArgument (b : UInt8) : Octets := encode "No arg for -" ++ [b] ++ encode " option"

/-- The options of a special verb. -/
def optionsOf (verb known : String) (arguments : List Octets) :
    Step (List Char × List Octets) :=
  match options known arguments with
  | .ok found => return found
  | .error b => abort verb (illegalOption b)

/-! ## Output -/

/-- A text in quotes, as it can be read again. -/
def quoted (s : Octets) : Octets :=
  let pieces := s.splitOn (ascii '\'')
  let inner := pieces.map fun piece => encode "'" ++ piece ++ encode "'"
  [ascii '"', ascii '\'', ascii '"'].intercalate inner

def echo (arguments : List Octets) : Step Nat := do
  Step.out (Format.echo arguments)
  return 0

def printf (arguments : List Octets) : Step Nat := do
  let arguments := if arguments.head?.any (isText · "--") then arguments.drop 1 else arguments
  match arguments with
  | [] => wrong "printf" (encode "usage: printf format [arg ...]")
  | format :: arguments =>
    let (text, complaints, status) := Format.printf format arguments
    for message in complaints do complain "printf" message
    Step.out text
    return status

end ThemedShell.CommandLanguage.Verb
