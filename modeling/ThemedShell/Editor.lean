import ThemedShell.Environment
import ThemedShell.Text.Grapheme
import ThemedShell.Text.Utf8

/-!
# The line editor

The editor gives one reading at a time: a line, or one of the ways in which `readline` can fail. It
belongs to a library, and the shell is proved right for any readings and for any rule by which the
editor writes its prompt. `readings` and `showsPrompt` are what the program is linked with: fed from
a stream of bytes, the editor cuts the stream into lines; a line feed ends a line, with a carriage
return before it, and each backspace takes back the character before it. A line that is no text is a
failed reading.
-/
namespace ThemedShell

inductive Reading where
  | line (text : String)
  | interrupted
  | endOfInput
  | failed
deriving DecidableEq, Repr

namespace Editor

/-! ## Lines of a stream -/

def lineFeed : UInt8 := 10

def carriageReturn : UInt8 := 13

def backspace : Char := '\x08'

/-- What is kept, last cluster first, after one more cluster: a backspace takes one back. -/
def keepCluster (kept : List (List Char)) (cluster : List Char) : List (List Char) :=
  if cluster = [backspace] then kept.tail else cluster :: kept

/-- A text after its backspaces have done their work. -/
def applyBackspaces (s : String) : String :=
  .ofList ((Text.clusters s.toList).foldl keepCluster []).reverse.flatten

/-- The reading of a line without its end. -/
def readLine (bytes : Text.Octets) : Reading :=
  match Text.decode? bytes with
  | some s => .line (applyBackspaces s)
  | none => .failed

/-- A line that a line feed ended, without the carriage return before it. -/
def dropReturn (bytes : Text.Octets) : Text.Octets :=
  if bytes.getLast? = some carriageReturn then bytes.dropLast else bytes

/-- The readings of a stream that has been split at its line feeds. -/
def readEach : List Text.Octets → List Reading
  | [] => []
  | [last] => if last = [] then [] else [readLine last]
  | line :: rest => readLine (dropReturn line) :: readEach rest

/-- The readings that a stream gives before it ends. -/
def readings (stream : Text.Octets) : List Reading := readEach (stream.splitOn lineFeed)

/-! ## Prompts -/

/-- Terminals on which the editor writes the prompt itself even if nobody types. -/
def plainTerminals : List String := ["dumb", "cons25", "emacs"]

/-- The usual rule: where nobody types, the prompt goes to the output only if the terminal is one of
the plain ones. -/
def showsPrompt (env : Environment) : Bool :=
  match env.value? "TERM" with
  | some term => plainTerminals.any fun name => name.toList == term.toList.map Char.toLower
  | none => false

end Editor

end ThemedShell
