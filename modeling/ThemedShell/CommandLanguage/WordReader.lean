import ThemedShell.CommandLanguage.Source

/-!
# The command language: reading words and tokens

Words are read together with the tokens around them, since a word may hold whole programs: `program`
reads one, up to the token that ends it. Texts that belong to a redirection stand on the lines that
follow; they are collected when the line ends.
-/
namespace ThemedShell.CommandLanguage

open Text (Octets)
open Reader

/-! ## Words in the making -/

/-- Adds a byte to a word whose last part comes first. -/
def pushByte (quoted : Bool) (b : UInt8) : Word → Word
  | .text q bytes :: rest =>
    if q == quoted then .text q (bytes ++ [b]) :: rest
    else .text quoted [b] :: .text q bytes :: rest
  | parts => .text quoted [b] :: parts

/-- Where a word is read, which decides where it ends and what quotes mean. -/
inductive Place where
  | bare
  | doubleQuotes
  | here
  | braces (quoted : Bool)
  | arithmetic (depth : Nat)
deriving DecidableEq

namespace Place

/-- What is read here is quoted. -/
def quotes : Place → Bool
  | .bare => false
  | .braces quoted => quoted
  | _ => true

/-- The mistake of a text that ends here. -/
def unfinished : Place → Option String
  | .bare | .here => none
  | .doubleQuotes => some "Unterminated quoted string"
  | .braces _ => some "Missing '\x7d'"
  | .arithmetic _ => some "Missing '))'"

/-- The bytes that a backslash quotes here; elsewhere than here, all. -/
def escapes? : Place → Option String
  | .bare | .braces false => none
  | .doubleQuotes => some "$`\"\\"
  | .here => some "$`\\"
  | .braces true => some "$`\"\\\x7d"
  | .arithmetic _ => some "$`\\"

end Place

/-- A byte at which a bare word ends. -/
def endsWord (c : Char) : Bool := " \t\n;&|()<>".toList.contains c

/-- The text of a word without regard to quotes. -/
def rawText (word : Word) : Octets :=
  word.flatMap fun part => match part with
    | .text _ bytes => bytes
    | _ => []

def isQuotedPart : Part → Bool
  | .text quoted _ => quoted
  | _ => false

/-- Inside backquotes a backslash quotes only a few bytes. Gives the text up to the closing one. -/
def backquotedText (quoted : Bool) : Octets → Option (Octets × Octets)
  | [] => none
  | b :: rest =>
    if asChar b == '\x60' then some ([], rest)
    else if asChar b == '\\' then
      match rest with
      | [] => none
      | c :: rest =>
        let dropped := asChar c == '\x60' || asChar c == '\\' || asChar c == '$'
          || (quoted && asChar c == '"')
        (backquotedText quoted rest).map fun (text, rest) =>
          ((if dropped then [c] else [b, c]) ++ text, rest)
    else (backquotedText quoted rest).map fun (text, rest) => (b :: text, rest)

/-- The lines up to one that is the delimiter, and what follows it. -/
def linesUpTo (delimiter : Octets) (stripTabs : Bool) : Nat → Octets → Octets × Octets
  | 0, bytes => (bytes, [])
  | _ + 1, [] => ([], [])
  | fuel + 1, bytes =>
    let line := bytes.takeWhile fun b => asChar b != '\n'
    let rest := bytes.drop (line.length + 1)
    let line := if stripTabs then line.dropWhile fun b => asChar b == '\t' else line
    if line == delimiter then ([], rest)
    else
      let (text, after) := linesUpTo delimiter stripTabs fuel rest
      let isEnded := (bytes.dropWhile fun b => asChar b != '\n') ≠ []
      (line ++ (if isEnded then [ascii '\n'] else []) ++ text, after)

/-! ## Parameters -/

/-- The form that follows the name of a parameter in braces. -/
def parameterForm : Reader Form := do
  let colon := (← peekJoined) == some ':'
  if colon then skip
  match ← peekJoined with
  | some '-' => skip; return .default colon
  | some '=' => skip; return .assign colon
  | some '?' => skip; return .require colon
  | some '+' => skip; return .alternative colon
  | some '%' =>
    if colon then return .bad
    skip
    if (← peekJoined) == some '%' then skip; return .trimEnd true
    else return .trimEnd false
  | some '#' =>
    if colon then return .bad
    skip
    if (← peekJoined) == some '#' then skip; return .trimStart true
    else return .trimStart false
  | some '\x7d' => return if colon then .bad else .plain
  | _ => return .bad

/-- Behind the opening brace, the length of a parameter is asked for. -/
def asksLength : Octets → Bool
  | a :: b :: rest =>
    asChar a == '#' && asChar b != '\x7d'
      && (isNamePart b || (isSpecial b && rest.head?.map asChar == some '\x7d'))
  | _ => false

/-- The name of a parameter: a name, a number, or one special byte. -/
def parameterName : Reader Octets := do
  match (← get).rest with
  | b :: _ =>
    if isNameStart b then takeWhile isNamePart
    else if isDigit b then takeWhile isDigit
    else if isSpecial b then
      skip
      return [b]
    else return []
  | [] => return []

/-! ## Parts of words -/

section

variable (program : Reader Command) (parts : Place → Reader Word)

/-- The token that has been read ahead. -/
def takeAhead : Reader Token := do
  let s ← get
  set { s with ahead := none }
  return s.ahead.getD .endOfText

/-- A parameter in braces. -/
def readBraced (quoted : Bool) : Reader Part := do
  let _ ← peekJoined
  if asksLength (← get).rest then
    skip
    let name ← parameterName
    if (← peekJoined) == some '\x7d' then
      skip
      return .parameter quoted name .length []
    else
      return .parameter quoted name .bad (← parts (.braces quoted))
  else
    let name ← parameterName
    if name.isEmpty then
      return .parameter quoted [] .bad (← parts (.braces quoted))
    else
      let form ← parameterForm
      let inner := match form with
        | .trimEnd _ | .trimStart _ => false
        | _ => quoted
      return .parameter quoted name form (← parts (.braces inner))

/-- What a dollar sign introduces. -/
def readDollar (quoted : Bool) : Reader Part := do
  match ← peekJoined with
  | some '(' =>
    skip
    if (← peekJoined) == some '(' then
      skip
      return .arithmetic quoted (← parts (.arithmetic 0))
    else
      let body ← program
      match ← takeAhead with
      | .operator ")" => return .substitution quoted body
      | token => unexpected token (some "\")\"")
  | some '\x7b' =>
    skip
    readBraced parts quoted
  | some c =>
    if isNamePart (ascii c) && !c.isDigit then
      return .parameter quoted (← takeWhile isNamePart) .plain []
    else if c.toNat < 0x80 && isSpecial (ascii c) then
      skip
      return .parameter quoted [ascii c] .plain []
    else return .text quoted [ascii '$']
  | none => return .text quoted [ascii '$']

/-- A program in backquotes. -/
def readBackquotes (quoted : Bool) : Reader Part := do
  let s ← get
  match backquotedText quoted s.rest with
  | none =>
    let _ ← takeWhile fun _ => true
    fail "EOF in backquote substitution"
  | some (text, rest) =>
    let lines := (s.rest.take (s.rest.length - rest.length)).countP fun b => asChar b == '\n'
    set { s with rest := text, ahead := none, pending := [] }
    let body ← program
    modify fun inner =>
      { s with rest, line := s.line + lines, texts := inner.texts }
    return .substitution quoted body

end

variable (program : Reader Command)

/-- The parts of a word in the given place; `parts` are those read before, last first. -/
def readParts : Nat → Place → Word → Reader Word
  | 0, _, _ => fail "text too deep"
  | fuel + 1, place, parts => do
    match ← peek with
    | none =>
      match place.unfinished with
      | some message => fail message
      | none => return parts.reverse
    | some c =>
      if place = .bare && endsWord c then return parts.reverse
      else if place = .doubleQuotes && c == '"' then
        skip
        return parts.reverse
      else if (place = .braces false || place = .braces true) && c == '\x7d' then
        skip
        return parts.reverse
      else match c with
      | '\\' =>
        skip
        let parts ← readEscape place parts
        readParts fuel place parts
      | '$' =>
        skip
        let more ← readDollar program (fun place => readParts fuel place []) place.quotes
        readParts fuel place (more :: parts)
      | '\x60' =>
        skip
        let more ← readBackquotes program place.quotes
        readParts fuel place (more :: parts)
      | '\'' =>
        if place.quotes then
          skip
          readParts fuel place (pushByte true (ascii c) parts)
        else
          skip
          let bytes ← takeWhile fun b => asChar b != '\''
          if (← peek).isNone then fail "Unterminated quoted string"
          skip
          readParts fuel place (.text true bytes :: parts)
      | '"' =>
        match place with
        | .here | .arithmetic _ =>
          skip
          readParts fuel place (pushByte true (ascii c) parts)
        | _ =>
          skip
          let more ← readParts fuel .doubleQuotes []
          readParts fuel place (more.reverse ++ .text true [] :: parts)
      | _ =>
        match place with
        | .arithmetic depth =>
          skip
          if c == '(' then
            readParts fuel (.arithmetic (depth + 1)) (pushByte true (ascii c) parts)
          else if c == ')' && depth > 0 then
            readParts fuel (.arithmetic (depth - 1)) (pushByte true (ascii c) parts)
          else if c == ')' && (← peekJoined) == some ')' then
            skip
            return parts.reverse
          else readByte fuel place c parts
        | _ =>
          let b := ((← get).rest.head?).getD 0
          skip
          readParts fuel place (pushByte place.quotes b parts)
where
  /-- Reads on behind an ordinary byte. -/
  readByte (fuel : Nat) (place : Place) (c : Char) (parts : Word) : Reader Word :=
    readParts fuel place (pushByte true (ascii c) parts)
  /-- What a backslash makes of the byte behind it. -/
  readEscape (place : Place) (parts : Word) : Reader Word := do
    match ← next with
    | none => return pushByte true (ascii '\\') parts
    | some b =>
      if asChar b == '\n' then return parts
      match place.escapes? with
      | none => return pushByte true b parts
      | some escapes =>
        if escapes.toList.contains (asChar b) then return pushByte true b parts
        else return pushByte true b (pushByte true (ascii '\\') parts)

/-! ## Tokens -/

/-- The texts that redirections of the finished line wait for. -/
def readPendingTexts : List PendingText → Reader Unit
  | [] => modify ({ · with pending := [] })
  | wanted :: others => do
    let s ← get
    let (text, rest) := linesUpTo wanted.delimiter wanted.stripTabs (s.rest.length + 1) s.rest
    let line := s.line + (s.rest.take (s.rest.length - rest.length)).countP (asChar · == '\n')
    let word ← if wanted.quoted then pure [.text true text]
      else do
        set { s with rest := text, ahead := none, pending := [] }
        readParts program (4 * (text.length + 10)) .here []
    modify fun inner =>
      { s with rest, line, texts := inner.texts.setIfInBounds wanted.index word }
    readPendingTexts others

/-- The next token. -/
def readToken : Nat → Reader Token
  | 0 => fail "text too deep"
  | fuel + 1 => do
    if let some token := (← get).ahead then
      modify ({ · with ahead := none })
      return token
    let _ ← takeWhile fun b => asChar b == ' ' || asChar b == '\t'
    match ← peekJoined with
    | none => return .endOfText
    | some c =>
      match c with
      | ' ' | '\t' => readToken fuel
      | '#' =>
        let _ ← takeWhile fun b => asChar b != '\n'
        readToken fuel
      | '\n' =>
        skip
        readPendingTexts program (← get).pending
        return .newline
      | '&' => skip; double '&' "&&" "&"
      | '|' => skip; double '|' "||" "|"
      | ';' => skip; double ';' ";;" ";"
      | '(' => skip; return .operator "("
      | ')' => skip; return .operator ")"
      | '<' | '>' => readRedirect none
      | _ =>
        let word ← readParts program fuel .bare []
        let follows ← peek
        if follows == some '<' || follows == some '>' then
          match word with
          | [.text false [b]] =>
            if isDigit b then readRedirect (some (b.toNat - 48)) else return .word word
          | _ => return .word word
        else return .word word
where
  /-- An operator of one or two equal bytes. -/
  double (c : Char) (two one : String) : Reader Token := do
    if (← peekJoined) == some c then
      skip
      return .operator two
    else return .operator one
  /-- The operator of a redirection. -/
  readRedirect (fd : Option Nat) : Reader Token := do
    let first ← peek
    skip
    let second ← peekJoined
    let kind (kind : RedirectKind) (long : Bool) : Reader Token := do
      if long then skip
      return .redirect fd kind false
    if first == some '>' then
      match second with
      | some '>' => kind .append true
      | some '|' => kind .overwrite true
      | some '&' => kind .duplicateOutput true
      | _ => kind .output false
    else
      match second with
      | some '<' =>
        skip
        let strip := (← peekJoined) == some '-'
        if strip then skip
        return .redirect fd (.here 0) strip
      | some '&' => kind .duplicateInput true
      | some '>' => kind .readWrite true
      | _ => kind .input false

end ThemedShell.CommandLanguage
