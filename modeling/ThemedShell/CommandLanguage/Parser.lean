import ThemedShell.CommandLanguage.WordReader

/-!
# The command language: reading programs

A program is read one complete line at a time, so that what stands before a mistake is still run.
Commands and the programs of substitutions lie in each other: `Inner` names what has to be read
inside a command, `readInner` reads it with one level less to go. Sequences at one level have a bound
of their own; `Source.limit` is enough for both in any text.
-/
namespace ThemedShell.CommandLanguage

open Text (Octets)
open Reader

/-! ## Lists of commands -/

/-- How a list of commands ends: a program is read line by line, a part of a command ends at a word
that closes it, a substitution may also be empty. -/
inductive ListMode where
  | line | compound | closing
deriving DecidableEq

/-- The token ends a list of commands. -/
def endsList (token : Token) : Bool :=
  match token with
  | .endOfText => true
  | .operator name => name == ")" || name == ";;"
  | .word _ =>
    match token.keyword? with
    | some keyword =>
      ["do", "done", "elif", "else", "esac", "fi", "then", "\x7d"].contains keyword
    | none => false
  | _ => false

/-- The name that a word assigns to, and the value. -/
def assignment? : Word → Option (Octets × Word)
  | .text false bytes :: rest =>
    let name := bytes.takeWhile isNamePart
    match bytes.drop name.length with
    | b :: value =>
      if isName name && asChar b == '=' then
        some (name, if value.isEmpty then rest else .text false value :: rest)
      else none
    | [] => none
  | _ => none

/-- The verbs that no function can be named after. -/
def specialVerbs : List String :=
  [".", ":", "break", "continue", "eval", "exec", "exit", "export", "readonly", "return", "set",
   "shift", "times", "trap", "unset"]

def isSpecialVerb (name : Octets) : Bool := specialVerbs.any (Text.encode · = name)

def joinCommands : Command → Command → Command
  | .nothing, second => second
  | first, second => .sequence first second

/-! ## Tokens -/

/-- What lies inside a command. -/
inductive Inner where
  | command
  /-- The program of a substitution, up to the token that ends it. -/
  | program

def tooDeep {α : Type} : Reader α := fail "text too deep"

variable (bound : Nat) (read : Inner → Reader Command)

/-- The next token. -/
def token : Reader Token := readToken (read .program) bound

/-- The next token that ends no line; it is put back. -/
def skipNewlinesFor : Nat → Reader Unit
  | 0 => tooDeep
  | n + 1 => do
    match ← token bound read with
    | .newline => skipNewlinesFor n
    | token => unread token

def skipNewlines : Reader Unit := skipNewlinesFor bound read bound

/-- A keyword that must stand here. -/
def expectKeyword (keyword : String) : Reader Unit := do
  let token ← token bound read
  if token.keyword? ≠ some keyword then unexpected token (some ("\"" ++ keyword ++ "\""))

/-! ## Pipelines and lists -/

/-- Commands with pipes between them. -/
def readStages : Nat → Reader (List Command)
  | 0 => tooDeep
  | n + 1 => do
    let first ← read .command
    match ← token bound read with
    | .operator "|" =>
      skipNewlines bound read
      return first :: (← readStages n)
    | token =>
      unread token
      return [first]

def readPipeline : Reader Command := do
  let token ← token bound read
  let negated := token.keyword? == some "!"
  if !negated then unread token
  let stages ← readStages bound read bound
  match negated, stages with
  | false, [only] => return only
  | _, _ => return .pipeline negated stages

/-- Pipelines of which each runs only if those before it succeed or fail. -/
def readChainFrom : Nat → Command → Reader Command
  | 0, _ => tooDeep
  | n + 1, before => do
    match ← token bound read with
    | .operator "&&" =>
      skipNewlines bound read
      readChainFrom n (.both before (← readPipeline bound read))
    | .operator "||" =>
      skipNewlines bound read
      readChainFrom n (.either before (← readPipeline bound read))
    | token =>
      unread token
      return before

def readChain : Reader Command := do
  readChainFrom bound read bound (← readPipeline bound read)

/-- A list of commands that begins with those read before; `mayEnd` says whether it may end here. -/
def readListFrom (mode : ListMode) : Nat → Bool → Command → Reader Command
  | 0, _, _ => tooDeep
  | n + 1, mayEnd, before => do
    if mode ≠ .line then skipNewlines bound read
    match ← token bound read with
    | .newline => return before
    | .endOfText =>
      unread .endOfText
      return before
    | first =>
      unread first
      if mayEnd && endsList first then return before
      let command ← readChain bound read
      let after ← token bound read
      let all := joinCommands before command
      match after with
      | .newline | .endOfText =>
        unread after
        readListFrom mode n (mode ≠ .line) all
      | .operator "&" =>
        readListFrom mode n (mode ≠ .line) (joinCommands before (.background command))
      | .operator ";" => readListFrom mode n (mode ≠ .line) all
      | _ =>
        if mode = .line then unexpected after none
        unread after
        return all

def readList (mode : ListMode) : Reader Command :=
  readListFrom bound read mode bound (mode = .closing) .nothing

/-! ## Redirections -/

/-- The word behind the operator of a redirection. -/
def readTarget (fd : Option Nat) (kind : RedirectKind) (strip : Bool) : Reader Redirect := do
  match ← token bound read with
  | .word word =>
    let usual := match kind with
      | .output | .append | .overwrite | .duplicateOutput => 1
      | _ => 0
    match kind with
    | .here _ =>
      let s ← get
      let index := s.texts.size
      let wanted : PendingText :=
        { index, delimiter := rawText word, quoted := word.any isQuotedPart, stripTabs := strip }
      set { s with pending := s.pending ++ [wanted], texts := s.texts.push [] }
      return .mk (fd.getD usual) (.here index) []
    | _ => return .mk (fd.getD usual) kind word
  | token => unexpected token none

def readRedirects : Nat → Reader (List Redirect)
  | 0 => tooDeep
  | n + 1 => do
    match ← token bound read with
    | .redirect fd kind strip =>
      let first ← readTarget bound read fd kind strip
      return first :: (← readRedirects n)
    | token =>
      unread token
      return []

/-- The redirections behind a compound command. -/
def closed (body : Command) : Reader Command := do
  match ← readRedirects bound read bound with
  | [] => return body
  | redirects => return .redirected body redirects

/-! ## Branches and loops -/

/-- What stands behind `if` or `elif`. -/
def readConditional : Nat → Reader Command
  | 0 => tooDeep
  | n + 1 => do
    let test ← readList bound read .compound
    expectKeyword bound read "then"
    let yes ← readList bound read .compound
    let token ← token bound read
    match token.keyword? with
    | some "elif" => return .conditional test yes (← readConditional n)
    | some "else" =>
      let no ← readList bound read .compound
      expectKeyword bound read "fi"
      return .conditional test yes no
    | some "fi" => return .conditional test yes .nothing
    | _ => unexpected token (some "\"fi\"")

/-- What stands between `do` and `done`. -/
def readBody : Reader Command := do
  skipNewlines bound read
  expectKeyword bound read "do"
  let body ← readList bound read .compound
  expectKeyword bound read "done"
  return body

def readLoop (negated : Bool) : Reader Command := do
  let test ← readList bound read .compound
  let body ← readBody bound read
  return .whileLoop negated test body

def readWords : Nat → Reader (List Word)
  | 0 => tooDeep
  | n + 1 => do
    match ← token bound read with
    | .word word => return word :: (← readWords n)
    | token =>
      unread token
      return []

def readFor : Reader Command := do
  match ← token bound read with
  | .word word =>
    match plainWord? word with
    | some name =>
      if !isName name then fail "Bad for loop variable"
      skipNewlines bound read
      let after ← token bound read
      if after.keyword? == some "in" then
        let words ← readWords bound read bound
        match ← token bound read with
        | .newline | .operator ";" => return .forLoop name (some words) (← readBody bound read)
        | token => unexpected token none
      else
        match after with
        | .operator ";" => pure ()
        | _ => unread after
        return .forLoop name none (← readBody bound read)
    | none => fail "Bad for loop variable"
  | _ => fail "Bad for loop variable"

/-- The patterns of a clause, up to the parenthesis. Whatever stands for a pattern is let through; what
follows it is not. -/
def readPatterns : Nat → Reader (List Word)
  | 0 => tooDeep
  | n + 1 => do
    let word := match ← token bound read with
      | .word word => word
      | _ => []
    match ← token bound read with
    | .operator "|" => return word :: (← readPatterns n)
    | .operator ")" => return [word]
    | token => unexpected token (some "\")\"")

def readClauses : Nat → Reader (List (List Word × Command))
  | 0 => tooDeep
  | n + 1 => do
    skipNewlines bound read
    let first ← token bound read
    if first.keyword? == some "esac" then return []
    match first with
    | .operator "(" => pure ()
    | _ => unread first
    let patterns ← readPatterns bound read bound
    let body ← readList bound read .closing
    skipNewlines bound read
    let after ← token bound read
    if after.keyword? == some "esac" then return [(patterns, body)]
    match after with
    | .operator ";;" => return (patterns, body) :: (← readClauses n)
    | _ => unexpected after (some "\";;\"")

def readCase : Reader Command := do
  match ← token bound read with
  | .word subject =>
    skipNewlines bound read
    expectKeyword bound read "in"
    return .select subject (← readClauses bound read bound)
  | token => unexpected token (some "word")

/-! ## Simple commands -/

/-- What has been read of a simple command, the last of each kind first. -/
structure SimpleParts where
  line : Nat
  assignments : List (Octets × Word) := []
  words : List Word := []
  redirects : List Redirect := []

def SimpleParts.finish (parts : SimpleParts) : Command :=
  .simple parts.line parts.assignments.reverse parts.words.reverse parts.redirects.reverse

/-- The word that may name a function: there is nothing else before the parentheses. -/
def SimpleParts.onlyWord? (parts : SimpleParts) : Option Word :=
  match parts.assignments, parts.words, parts.redirects with
  | [], [name], [] => some name
  | _, _, _ => none

/-- A function, behind its name and the opening parenthesis. -/
def readFunction (name : Word) : Reader Command := do
  match ← token bound read with
  | .operator ")" =>
    match plainWord? name with
    | some name =>
      if !isName name || isSpecialVerb name then fail "Bad function name"
      skipNewlines bound read
      return .function name (← read .command)
    | none => fail "Bad function name"
  | token => unexpected token (some "\")\"")

/-- A simple command, or the definition of a function. -/
def readSimple : Nat → SimpleParts → Reader Command
  | 0, _ => tooDeep
  | n + 1, parts => do
    match ← token bound read with
    | .word word =>
      match if parts.words.isEmpty then assignment? word else none with
      | some assignment =>
        readSimple n { parts with assignments := assignment :: parts.assignments }
      | none => readSimple n { parts with words := word :: parts.words }
    | .redirect fd kind strip =>
      let redirect ← readTarget bound read fd kind strip
      readSimple n { parts with redirects := redirect :: parts.redirects }
    | .operator "(" =>
      match parts.onlyWord? with
      | some name => readFunction bound read name
      | none =>
        unread (.operator "(")
        return parts.finish
    | token =>
      unread token
      return parts.finish

/-! ## Commands -/

/-- One command, with the redirections behind it. -/
def readCommand : Reader Command := do
  let first ← token bound read
  let close (body : Command) : Reader Command := closed bound read body
  match first.keyword? with
  | some "if" => close (← readConditional bound read bound)
  | some "while" => close (← readLoop bound read false)
  | some "until" => close (← readLoop bound read true)
  | some "for" => close (← readFor bound read)
  | some "case" => close (← readCase bound read)
  | some "\x7b" =>
    let body ← readList bound read .compound
    expectKeyword bound read "\x7d"
    close body
  | some _ => unexpected first none
  | none =>
    match first with
    | .operator "(" =>
      let body ← readList bound read .compound
      match ← token bound read with
      | .operator ")" => close (.subshell body)
      | token => unexpected token (some "\")\"")
    | .word _ | .redirect _ _ _ =>
      unread first
      readSimple bound read bound { line := (← get).line }
    | _ => unexpected first none

/-- Reads what lies inside a command, so many levels deep. -/
def readInner : Nat → Inner → Reader Command
  | 0, _ => tooDeep
  | depth + 1, .command => readCommand bound (readInner depth)
  | depth + 1, .program => readList bound (readInner depth) .closing

/-! ## Programs -/

/-- No text has as many levels, or as many tokens at one level. -/
def Source.limit (s : Source) : Nat := 4 * (s.rest.length + 10)

/-- Reads one complete line of a program; there is none at its end. -/
def readLine? : Reader (Option Command) := do
  let bound := (← get).limit
  let read := readInner bound bound
  match ← token bound read with
  | .endOfText => return none
  | first =>
    unread first
    return some (← readList bound read .line)

end ThemedShell.CommandLanguage
