import ThemedShell.CommandLanguage.Syntax

/-!
# The command language: sources

A source is what is left of a text, with what has been read ahead. Readers take bytes from it; they
fail at the first mistake.
-/
namespace ThemedShell.CommandLanguage

open Text (Octets)

/-! ## Sources -/

/-- A text that a redirection waits for. -/
structure PendingText where
  index : Nat
  delimiter : Octets
  /-- The text is taken as it stands. -/
  quoted : Bool
  stripTabs : Bool

/-- What is left to be read, and what has been read ahead. -/
structure Source where
  rest : Octets
  line : Nat := 1
  ahead : Option Token := none
  pending : List PendingText := []
  /-- The texts of redirections, in the order of their numbers. -/
  texts : Array Word := #[]

abbrev Reader := StateT Source (Except SyntaxError)

namespace Reader

variable {α : Type}

/-- Gives up at the current line. -/
def fail (message : String) : Reader α := do
  throw { line := (← get).line, message }

/-- A token that must not stand here; `expected` is what might have stood here. -/
def unexpected (token : Token) (expected : Option String) : Reader α :=
  fail (token.describe true ++ " unexpected" ++
    match expected with
    | some name => " (expecting " ++ name ++ ")"
    | none => "")

/-- The next byte, which stays where it is. -/
def peek : Reader (Option Char) := return (← get).rest.head?.map asChar

/-- Takes the next byte and counts lines. -/
def next : Reader (Option UInt8) := do
  match (← get).rest with
  | [] => return none
  | b :: rest =>
    modify fun s => { s with rest, line := if asChar b == '\n' then s.line + 1 else s.line }
    return some b

def skip : Reader Unit := do let _ ← next

/-- Takes the bytes that satisfy `p`. -/
def takeWhile (p : UInt8 → Bool) : Reader Octets := do
  let s ← get
  let taken := s.rest.takeWhile p
  let lines := taken.countP fun b => asChar b == '\n'
  set { s with rest := s.rest.drop taken.length, line := s.line + lines }
  return taken

/-- Drops line ends that a backslash takes away. -/
def skipContinuations : Nat → Reader Unit
  | 0 => return
  | fuel + 1 => do
    match (← get).rest with
    | a :: b :: _ =>
      if asChar a == '\\' && asChar b == '\n' then
        skip
        skip
        skipContinuations fuel
    | _ => return

/-- The next byte behind taken-away line ends. -/
def peekJoined : Reader (Option Char) := do
  skipContinuations (← get).rest.length
  peek

/-- Puts a token back. -/
def unread (token : Token) : Reader Unit := modify ({ · with ahead := some token })

end Reader

end ThemedShell.CommandLanguage
