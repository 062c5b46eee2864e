import ThemedShell.Text.Utf8

/-!
# The command language: syntax

Command lines are programs of a small language: simple commands with words, assignments and
redirections, joined by pipes and lists, and the usual branches and loops. Texts are bytes. A word
is a list of parts, each quoted or not.
-/
namespace ThemedShell.CommandLanguage

open Text (Octets)

/-! ## Bytes -/

/-- The ASCII character of a byte; other bytes become characters that the language does not use. -/
def asChar (b : UInt8) : Char := Char.ofNat b.toNat

def ascii (c : Char) : UInt8 := c.toNat.toUInt8

def isDigit (b : UInt8) : Bool := (asChar b).isDigit

/-- A byte that can begin a name. -/
def isNameStart (b : UInt8) : Bool := b < 0x80 && ((asChar b).isAlpha || asChar b == '_')

def isNamePart (b : UInt8) : Bool := isNameStart b || isDigit b

/-- A name of a variable or a function. -/
def isName : Octets → Bool
  | [] => false
  | b :: rest => isNameStart b && rest.all isNamePart

/-- A parameter that is no name: one of the shell's own, or a digit. -/
def isSpecial (b : UInt8) : Bool := isDigit b || "@*#?-$!".toList.contains (asChar b)

/-! ## Words and commands -/

/-- What is done with the value of a parameter. With `colon`, an empty value counts as none. -/
inductive Form where
  | plain
  | length
  | default (colon : Bool)
  | assign (colon : Bool)
  | require (colon : Bool)
  | alternative (colon : Bool)
  | trimEnd (longest : Bool)
  | trimStart (longest : Bool)
  /-- No form of the language; the mistake shows when the word is expanded. -/
  | bad
deriving DecidableEq, Repr, Inhabited

inductive RedirectKind where
  | input | output | append | readWrite | duplicateInput | duplicateOutput
  /-- Output to a file that may be there, whatever the options say. -/
  | overwrite
  /-- The text that follows the line, by its number. -/
  | here (index : Nat)
deriving DecidableEq, Repr, Inhabited

mutual

/-- A part of a word. -/
inductive Part where
  | text (quoted : Bool) (bytes : Octets)
  | parameter (quoted : Bool) (name : Octets) (form : Form) (argument : List Part)
  | substitution (quoted : Bool) (body : Command)
  | arithmetic (quoted : Bool) (body : List Part)

inductive Redirect where
  | mk (fd : Nat) (kind : RedirectKind) (target : List Part)

inductive Command where
  | nothing
  | simple (line : Nat) (assignments : List (Octets × List Part)) (words : List (List Part))
      (redirects : List Redirect)
  | pipeline (negated : Bool) (stages : List Command)
  | both (first second : Command)
  | either (first second : Command)
  | sequence (first second : Command)
  | background (body : Command)
  | subshell (body : Command)
  | conditional (test yes no : Command)
  | whileLoop (negated : Bool) (test body : Command)
  | forLoop (name : Octets) (words : Option (List (List Part))) (body : Command)
  | select (subject : List Part) (clauses : List (List (List Part) × Command))
  | function (name : Octets) (body : Command)
  | redirected (body : Command) (redirects : List Redirect)

end

instance : Inhabited Part := ⟨.text false []⟩

instance : Inhabited Command := ⟨.nothing⟩

abbrev Word := List Part

/-! ## Tokens -/

inductive Token where
  | word (parts : Word)
  | operator (name : String)
  | redirect (fd : Option Nat) (kind : RedirectKind) (stripTabs : Bool)
  | newline
  | endOfText
deriving Inhabited

/-- Words that have a meaning of their own where a command can begin. -/
def keywords : List String :=
  ["!", "case", "do", "done", "elif", "else", "esac", "fi", "for", "if", "in", "then", "until",
   "while", "\x7b", "\x7d"]

/-- The bytes of a word that has neither quotes nor expansions. -/
def plainWord? : Word → Option Octets
  | [.text false bytes] => some bytes
  | _ => none

/-- The keyword that a token is, where keywords are recognised. -/
def Token.keyword? : Token → Option String
  | .word parts => (plainWord? parts).bind fun bytes => keywords.find? (Text.encode · = bytes)
  | _ => none

/-- How a token is called in a message; `keywords` tells whether it stood where keywords are
recognised. -/
def Token.describe (keywords : Bool) (token : Token) : String :=
  match token with
  | .word _ =>
    match if keywords then token.keyword? else none with
    | some keyword => "\"" ++ keyword ++ "\""
    | none => "word"
  | .operator name => "\"" ++ name ++ "\""
  | .redirect _ _ _ => "redirection"
  | .newline => "newline"
  | .endOfText => "end of file"

/-! ## Mistakes -/

/-- A mistake in the text, and the line that had been reached. -/
structure SyntaxError where
  line : Nat
  message : String
deriving Repr

end ThemedShell.CommandLanguage
