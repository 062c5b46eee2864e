import ThemedShell.CommandLanguage.Arithmetic
import ThemedShell.CommandLanguage.Pattern
import ThemedShell.CommandLanguage.Process

/-!
# The command language: expansion

Expansion turns words into the texts that a command gets. Parameters, substitutions and arithmetic
are replaced first; what they give is cut into fields where it was not quoted; then unquoted
patterns are replaced by the names of files that they describe.

What runs the program of a substitution is a parameter, `substitute`.
-/
namespace ThemedShell.CommandLanguage

open Text (Octets)

/-- What stands between the expansion of a word and its fields. -/
inductive Piece where
  /-- `split` says that the byte came out of an unquoted expansion. -/
  | byte (b : UInt8) (quoted split : Bool)
  /-- Quotes with nothing in them still make a field. -/
  | emptyQuotes
  /-- All arguments in quotes make no field if there are none. -/
  | noArguments
  | fieldBreak
deriving Inhabited

namespace Expansion

/-! ## Fields -/

/-- A word in the course of being cut: the open field, last byte first, if there is one. -/
structure Cutting where
  current : List Glyph := []
  isOpen : Bool := false
  /-- All that the field has is empty quotes around no arguments. -/
  vanishing : Bool := false
  /-- A blank closed the last field; a separator next to it closes no other. -/
  afterBlank : Bool := false
  fields : List (List Glyph) := []

def Cutting.close (c : Cutting) : Cutting :=
  { fields := if c.isOpen && !(c.vanishing && c.current.isEmpty)
      then c.current.reverse :: c.fields else c.fields }

def isBlankByte (b : UInt8) : Bool := " \t\n".toList.contains (asChar b)

def Cutting.step (separators : Octets) (c : Cutting) : Piece → Cutting
  | .byte b quoted split =>
    if split && separators.contains b then
      if isBlankByte b then
        if c.isOpen then { c.close with afterBlank := true } else c
      else if c.afterBlank then { c with afterBlank := false }
      else { c with isOpen := true }.close
    else { c with current := ⟨b, quoted⟩ :: c.current, isOpen := true, afterBlank := false }
  | .emptyQuotes => { c with isOpen := true }
  | .noArguments => { c with vanishing := true }
  | .fieldBreak => c.close

/-- The fields of an expanded word, cut at unquoted separators. -/
def fields (separators : Octets) (pieces : List Piece) : List (List Glyph) :=
  (pieces.foldl (Cutting.step separators) {}).close.fields.reverse

/-- An expanded word that is not cut. -/
def glyphs (pieces : List Piece) : List Glyph :=
  pieces.filterMap fun piece => match piece with
    | .byte b quoted _ => some ⟨b, quoted⟩
    | .fieldBreak => some ⟨ascii ' ', true⟩
    | _ => none

def bytesOf (glyphs : List Glyph) : Octets := glyphs.map Glyph.byte

/-! ## Names of files -/

/-- The paths that a pattern, cut at its slashes, describes below a beginning that is given as
text. -/
def matchPaths (root : FileTree.Node) (here : FileTree.Location) (start : Octets) :
    List (List Glyph) → List Octets
  | [] => []
  | segment :: rest =>
    let text := bytesOf segment
    let last := rest.isEmpty
    let deeper (path : Octets) : List Octets :=
      if last then [path] else matchPaths root here (path ++ [Path.slash]) rest
    if text.isEmpty then
      if last then (if FileTree.isDirectoryAt root here ⟨start⟩ then [start] else [])
      else matchPaths root here (start ++ [Path.slash]) rest
    else if Pattern.isWild segment then
      let pattern := Pattern.ofGlyphs segment
      let hidden := segment.head?.any fun g => g.byte == Path.dot
      let folder : Path := if start.isEmpty then ⟨[Path.dot]⟩ else ⟨start⟩
      let names := match FileTree.listDirectory root here folder with
        | .ok names => FileTree.oneDot :: FileTree.twoDots :: names
        | .error _ => []
      let fits (name : FileName) : Bool :=
        (hidden || name.head? != some Path.dot) && Pattern.isMatch pattern name
          && (last || FileTree.isDirectoryAt root here ⟨start ++ name⟩)
      (names.filter fits).flatMap fun name => deeper (start ++ name)
    else if last then
      if FileTree.isOccupied root here ⟨start ++ text⟩ then [start ++ text] else []
    else deeper (start ++ text)

/-- The names of files that a field describes, in order, or the field itself. -/
def filesOf (p : Process) (field : List Glyph) : List Octets :=
  if p.options.noGlobbing || !Pattern.isWild field then [bytesOf field]
  else
    let segments := field.splitOnP fun g => g.byte == Path.slash
    match matchPaths p.world.root p.here [] segments with
    | [] => [bytesOf field]
    | paths => paths.mergeSort fun a b => decide (a ≤ b)

/-! ## Parameters -/

def decimal (n : Nat) : Octets := Text.encode (toString n)

def isAll (name : Octets) : Bool := name == [ascii '@'] || name == [ascii '*']

/-- The letters of the options that are set. -/
def optionLetters (o : Options) : String :=
  String.join ([(o.refuseUnset, "u"), (o.allExport, "a"), (o.noClobber, "C"), (o.trace, "x"),
    (o.noGlobbing, "f"), (o.exitOnError, "e")].map fun (isSet, letter) => if isSet then letter else "")

/-- The value of a parameter that is one text. -/
def parameter? (p : Process) (name : Octets) : Option Octets :=
  match name with
  | [b] =>
    match asChar b with
    | '#' => some (decimal p.arguments.length)
    | '?' => some (decimal p.status)
    | '$' => some (decimal p.shellNumber)
    | '!' => p.jobs.head?.map fun job => decimal job.1
    | '-' => some (Text.encode (optionLetters p.options))
    | '0' => some p.name
    | c =>
      if c.isDigit then p.arguments[c.toNat - 49]?
      else p.valueOf? name
  | _ =>
    if name.all isDigit && !name.isEmpty then
      let n := (Arithmetic.readDigits 10 name).1
      if n = 0 then some p.name else p.arguments[n - 1]?
    else p.valueOf? name

def separators (p : Process) : Octets :=
  (p.valueOf? (Text.encode "IFS")).getD (Text.encode " \t\n")

/-- A text as pieces. -/
def piecesOf (quoted : Bool) (bytes : Octets) : List Piece :=
  bytes.map fun b => .byte b quoted !quoted

def joinWith (between : List Piece) : List (List Piece) → List Piece
  | [] => []
  | [last] => last
  | first :: rest => first ++ between ++ joinWith between rest

/-- All arguments: a star in quotes joins them, otherwise each has fields of its own. -/
def allArguments (p : Process) (quoted : Bool) (name : Octets) : List Piece :=
  if quoted && name == [ascii '*'] then
    let between := match p.valueOf? (Text.encode "IFS") with
      | none => [Piece.byte (ascii ' ') true false]
      | some [] => []
      | some (b :: _) => [Piece.byte b true false]
    joinWith between (p.arguments.map (piecesOf true))
  else if quoted then
    if p.arguments.isEmpty then [.noArguments]
    else joinWith [.fieldBreak] (p.arguments.map fun a => .emptyQuotes :: piecesOf true a)
  else joinWith [.fieldBreak] (p.arguments.map (piecesOf false))

/-- A text without the part at its end or its start that the pattern describes. -/
def trimmed (form : Form) (pattern : Pattern) (value : Octets) : Octets :=
  match form with
  | .trimEnd longest =>
    let lengths := pattern.matchingEnds value
    match if longest then lengths.head? else lengths.getLast? with
    | some n => value.take n
    | none => value
  | .trimStart longest =>
    let lengths := pattern.matchingStarts value
    match if longest then lengths.getLast? else lengths.head? with
    | some n => value.drop n
    | none => value
  | _ => value

/-- A line break at the end of a substitution is dropped, and so are all NULs. -/
def substitutedText (output : Octets) : Octets :=
  ((output.reverse.dropWhile fun b => asChar b == '\n').filter (· ≠ 0)).reverse

def readOnlyMessage (name : Octets) : Octets := name ++ Text.encode ": is read only"

/-- Gives a variable a value, unless it is read-only. -/
def assign (name value : Octets) : Step Unit := do
  if (← get).isReadOnly name then Step.abort (readOnlyMessage name)
  modify fun p => p.assign name value

/-! ## Words -/

/-- A tilde at the beginning of a word stands for the home directory. -/
def tilde (p : Process) (word : Word) : List Piece × Word :=
  match word with
  | .text false (b :: bytes) :: rest =>
    let user := bytes.takeWhile fun b => b ≠ Path.slash
    if asChar b == '~' && (user.length < bytes.length || rest.isEmpty) then
      let home := if user.isEmpty then p.valueOf? (Text.encode "HOME")
        else if user == Text.encode "root" then some (Text.encode "/root") else none
      match home with
      | some home =>
        (home.map fun b => .byte b true false, .text false (bytes.drop user.length) :: rest)
      | none => ([], word)
    else ([], word)
  | _ => ([], word)

variable (substitute : Command → Step Octets)

/-- The value of an arithmetic expression. -/
def arithmetic (text : Octets) : Step Octets := do
  let p ← get
  let wrong (message : String) : Step Octets :=
    Step.abort (Text.encode ("arithmetic expression: " ++ message ++ ": \"") ++ text
      ++ Text.encode "\"")
  let lookup (name : Octets) : Except Arithmetic.Fault Int :=
    match p.valueOf? name with
    | some value => Arithmetic.valueOf value
    | none => if p.options.refuseUnset then .error (.unset name) else .ok 0
  match Arithmetic.parse text with
  | .error message => wrong message
  | .ok e =>
    match (Arithmetic.evaluate lookup e).run [] with
    | .error .divisionByZero => wrong "division by zero"
    | .error (.notNumber value) => Step.abort (Text.encode "Illegal number: " ++ value)
    | .error (.unset name) => Step.abort (name ++ Text.encode ": parameter not set")
    | .ok (n, assigned) =>
      for (name, n) in assigned.reverse do
        assign name (Text.encode (toString n))
      return Text.encode (toString n)

mutual

/-- The pieces of a word. `inner` says that the word stands inside an unquoted expansion, so that
its own text is cut into fields too. -/
def pieces : Nat → Bool → Word → Step (List Piece)
  | 0, _, _ => return []
  | _ + 1, _, [] => return []
  | fuel + 1, inner, part :: rest => do
    let first ← partPieces fuel inner part
    return first ++ (← pieces fuel inner rest)

def partPieces : Nat → Bool → Part → Step (List Piece)
  | 0, _, _ => return []
  | fuel + 1, inner, part => do
    match part with
    | .text true bytes => return .emptyQuotes :: bytes.map fun b => .byte b true false
    | .text false bytes => return bytes.map fun b => .byte b false inner
    | .substitution quoted body => return piecesOf quoted (substitutedText (← substitute body))
    | .arithmetic quoted body =>
      let text := bytesOf (glyphs (← pieces fuel false body))
      return piecesOf quoted (← arithmetic text)
    | .parameter quoted name form argument => parameterPieces fuel quoted name form argument

/-- The pieces of a parameter with its form. -/
def parameterPieces : Nat → Bool → Octets → Form → Word → Step (List Piece)
  | 0, _, _, _, _ => return []
  | fuel + 1, quoted, name, form, argument => do
    let p ← get
    let all := isAll name
    let value? := if all then
        (if p.arguments.isEmpty then none
          else some (bytesOf (glyphs (allArguments p true [ascii '*']))))
      else parameter? p name
    let shown : List Piece := if all then allArguments p quoted name
      else (if quoted then [.emptyQuotes] else []) ++ piecesOf quoted (value?.getD [])
    let missing (colon : Bool) : Bool := match value? with
      | none => true
      | some value => colon && value.isEmpty
    let other : Step (List Piece) := do
      let more ← pieces fuel (!quoted) argument
      return if quoted then .emptyQuotes :: more else more
    let need : Step Unit := do
      if value?.isNone && !all && p.options.refuseUnset then
        Step.abort (name ++ Text.encode ": parameter not set")
    match form with
    | .bad => Step.abort (Text.encode "Bad substitution")
    | .plain =>
      need
      return shown
    | .length =>
      need
      if all then return piecesOf quoted (decimal p.arguments.length)
      else return piecesOf quoted (decimal (value?.getD []).length)
    | .default colon => if missing colon then other else return shown
    | .alternative colon => if missing colon then return [] else other
    | .assign colon =>
      if missing colon then
        let value := bytesOf (glyphs (← pieces fuel false argument))
        if !isName name then Step.abort (name ++ Text.encode ": bad variable name")
        assign name value
        return (if quoted then [.emptyQuotes] else []) ++ piecesOf quoted value
      else return shown
    | .require colon =>
      if missing colon then
        let message := bytesOf (glyphs (← pieces fuel false argument))
        let message := if message.isEmpty then
            (if colon then Text.encode "parameter not set or null"
              else Text.encode "parameter not set")
          else message
        Step.abort (name ++ Text.encode ": " ++ message)
      else return shown
    | .trimEnd _ | .trimStart _ =>
      need
      let pattern := Pattern.ofGlyphs (glyphs (← pieces fuel false argument))
      let value := trimmed form pattern (value?.getD [])
      return (if quoted then [.emptyQuotes] else []) ++ piecesOf quoted value

end

/-- Words are nested no deeper. -/
def depth : Nat := 100000

/-- The pieces of a word, with the tilde at its beginning. -/
def wordPieces (word : Word) : Step (List Piece) := do
  let (home, rest) := tilde (← get) word
  return home ++ (← pieces substitute depth false rest)

/-- The bytes of a word that is not cut into fields. -/
def whole (word : Word) : Step Octets := return bytesOf (glyphs (← wordPieces substitute word))

/-- The pattern that a word describes. -/
def patternOf (word : Word) : Step Pattern :=
  return Pattern.ofGlyphs (glyphs (← wordPieces substitute word))

/-- The texts that words stand for. -/
def texts : List Word → Step (List Octets)
  | [] => return []
  | word :: rest => do
    let pieces ← wordPieces substitute word
    let p ← get
    let first := (fields (separators p) pieces).flatMap (filesOf p)
    return first ++ (← texts rest)

end Expansion

end ThemedShell.CommandLanguage
