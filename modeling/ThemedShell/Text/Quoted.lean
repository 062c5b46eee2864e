import ThemedShell.Text.Quoted.Table
import ThemedShell.Text.Utf8

/-!
# Quoted texts

A quoted text stands between double quotes on one line. Quotes and backslashes are written with a
backslash, the common controls by their letters, and what cannot be shown by its code point. A file
name is quoted in the same way; bytes in it that are no text are written by their values.
-/
namespace ThemedShell.Text

/-- The hexadecimal digits of a number, without leading zeros. -/
def hexDigits (n : Nat) : List Char := Nat.toDigits 16 n

/-- A character in a quoted text; `quotes` are the quotation marks that need a backslash. -/
def quoteChar (quotes : List Char) (c : Char) : List Char :=
  if c = '\x00' then ['\\', '0']
  else if c = '\t' then ['\\', 't']
  else if c = '\r' then ['\\', 'r']
  else if c = '\n' then ['\\', 'n']
  else if c = '\\' ∨ c ∈ quotes then ['\\', c]
  else if extendingRanges.has c || unprintableRanges.has c then
    ['\\', 'u', '\x7b'] ++ hexDigits c.toNat ++ ['\x7d']
  else [c]

/-- A text between double quotes. -/
def quoted (s : String) : String :=
  .ofList ('"' :: s.toList.flatMap (quoteChar ['"']) ++ ['"'])

/-! ## File names -/

/-- The character that the bytes begin with, and how many bytes of it come after the first. -/
def frontChar? (bytes : Octets) : Option (Char × Nat) :=
  [0, 1, 2, 3].findSome? fun more => do
    return (← (← decode? (bytes.take (more + 1))).toList.head?, more)

/-- A byte by its value. -/
def quoteByte (b : UInt8) : List Char := ['\\', 'x'] ++ (hexDigits b.toNat).map Char.toUpper

/-- The bytes after the first `skip` ones, as they are quoted. Single quotes have a backslash as
well. -/
def quoteBytes (skip : Nat) : Octets → List Char
  | [] => []
  | b :: rest =>
    match skip with
    | skip + 1 => quoteBytes skip rest
    | 0 =>
      match frontChar? (b :: rest) with
      | some (c, more) => quoteChar ['"', '\''] c ++ quoteBytes more rest
      | none => quoteByte b ++ quoteBytes 0 rest

/-- The name of a file between double quotes. -/
def quotedName (bytes : Octets) : String := .ofList ('"' :: quoteBytes 0 bytes ++ ['"'])

end ThemedShell.Text
