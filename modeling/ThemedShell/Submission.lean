import ThemedShell.Text.Blank
import ThemedShell.Text.Lowercase
import ThemedShell.Theme

/-!
# Submitted lines

A submitted line begins with a word, the verb, and what follows the blanks behind it is the
argument. Some verbs are built in; the case of their letters does not matter. `parse` is
`ParsedLine.parse`, `Builtin.ofVerb?` looks a verb up in the table that `builtins` makes, and
`isBuiltin` is `Interpreter.is_builtin`.
-/
namespace ThemedShell

/-! ## The parts of a line -/

structure Submission where
  /-- The first word, in lower case. -/
  verb : String
  /-- What follows the first word, as it was written. -/
  argument : String
deriving DecidableEq, Repr

namespace Submission

def firstWord (cs : List Char) : List Char := cs.takeWhile fun c => !Text.isBlank c

def afterWord (cs : List Char) : List Char := cs.dropWhile fun c => !Text.isBlank c

def parse (line : String) : Submission :=
  let cs := Text.stripBlanks line.toList
  { verb := Text.lowercase (.ofList (firstWord cs))
    argument := .ofList (Text.dropBlanks (afterWord cs)) }

end Submission

/-! ## Built-in verbs -/

inductive Builtin where
  | help
  | changeDirectory
  | list
  | makeDirectory
  | clear
  | color (layer : Layer)
  | exec
  | exit
deriving DecidableEq, Repr

namespace Builtin

def verb : Builtin → String
  | .help => "help"
  | .changeDirectory => "cd"
  | .list => "ls"
  | .makeDirectory => "mkdir"
  | .clear => "cls"
  | .color .background => "bgcolor"
  | .color .foreground => "fgcolor"
  | .exec => "exec"
  | .exit => "exit"

def all : List Builtin :=
  [.help, .changeDirectory, .list, .makeDirectory, .clear, .color .background, .color .foreground,
   .exec, .exit]

theorem mem_all (b : Builtin) : b ∈ all := by
  cases b with
  | color layer => cases layer <;> decide
  | _ => decide

/-- The built-in with this verb, which is in lower case. -/
def ofVerb? (verb : String) : Option Builtin := all.find? fun b => b.verb = verb

end Builtin

/-- Whether a word, in any case, is the verb of a built-in. -/
def isBuiltin (word : String) : Bool := (Builtin.ofVerb? (Text.lowercase word)).isSome

end ThemedShell
