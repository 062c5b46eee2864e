import ThemedShell.Utility.Files
import ThemedShell.Utility.Regex

/-!
# Utilities with regular expressions

`grep` picks lines, `sed` edits them, and `expr` computes with texts and numbers.
-/
namespace ThemedShell.Utility

open Text (Octets)
open CommandLanguage

/-! ## Picking lines -/

/-- An expression for a text that stands for itself. -/
def literalRegex (text : Octets) : Regex :=
  text.foldr (fun b r => .follow (.byte b) r) .empty

/-- The expression that the options of `grep` make of its patterns, one a line. -/
def grepRegex (c : Call) (patterns : List Octets) : Option Regex := do
  let parsed ← patterns.mapM fun pattern =>
    if c.has 'F' then some (literalRegex pattern) else Regex.parse (c.has 'E') pattern
  let oneOf ← match parsed with
    | [] => none
    | first :: rest => some (rest.foldl Regex.choice first)
  return if c.has 'x' then .follow .start (.follow oneOf .finish) else oneOf

/-- A match that stands between bytes that belong to no word. -/
def isWholeWord (found : Regex.Found) : Bool :=
  !(found.before.getLast?.any isNamePart) && !(found.after.head?.any isNamePart)

def lineMatches (c : Call) (regex : Regex) (line : Octets) : Bool :=
  let fold := if c.has 'i' then lowerByte else id
  match regex.search fold line with
  | some found => !c.has 'w' || isWholeWord found
  | none => false

/-- All matches in a line, from left to right. -/
def allMatches (fold : UInt8 → UInt8) (regex : Regex) : Nat → Octets → Octets → List Octets
  | 0, _, _ => []
  | fuel + 1, before, after =>
    match Regex.searchFrom fold regex (after.length + 1) { before := before.reverse, after } with
    | none => []
    | some found =>
      if found.text.isEmpty then
        match found.after with
        | [] => []
        | b :: rest => allMatches fold regex fuel (found.before ++ [b]) rest
      else found.text :: allMatches fold regex fuel (found.before ++ found.text) found.after

/-- Writes what `grep` shows of a file; gives the number of lines picked. -/
def grepFile (c : Call) (regex : Regex) (label : Octets) (content : Octets) : Step Nat := do
  let lines := (linesOf content).zipIdx.filter fun (line, _) =>
    lineMatches c regex line != c.has 'v'
  let lines := match (c.value? 'm').bind toNat? with
    | some n => lines.take n
    | none => lines
  if c.has 'q' then pure ()
  else if c.has 'l' then
    if !lines.isEmpty then Step.out (label ++ [ascii '\n'])
  else if c.has 'c' then
    Step.out ((if label.isEmpty then [] else label ++ bytes ":") ++ decimal lines.length
      ++ [ascii '\n'])
  else
    for (line, i) in lines do
      let start := (if label.isEmpty then [] else label ++ bytes ":")
        ++ (if c.has 'n' then decimal (i + 1) ++ bytes ":" else [])
      if c.has 'o' then
        let fold := if c.has 'i' then lowerByte else id
        for text in allMatches fold regex (line.length + 2) [] line do
          Step.out (start ++ text ++ [ascii '\n'])
      else Step.out (start ++ line ++ [ascii '\n'])
  return lines.length

/-- The files below directories; without any, those below the one where the process is. -/
def filesBelow (operands : List Octets) : Step (List Octets) := do
  let p ← get
  let below (start : Octets) : List Octets :=
    match FileTree.find p.world.root p.here ⟨if start.isEmpty then FileTree.oneDot else start⟩ true
      with
    | .ok (.directory entries) =>
      let files := (FileTree.descendants (.directory entries)).filterMap fun (location, node) =>
        match node with
        | .file _ _ => some ((Path.mk start).join (.ofNames false location)).bytes
        | _ => none
      files.mergeSort fun a b => decide (a ≤ b)
    | _ => [start]
  return (if operands.isEmpty then [[]] else operands).flatMap below

def grepAs (name : String) (extra : List Char) (arguments : List Octets) : Step Nat :=
  withCall name "vicnqEFGoxwlLhHsra" "em" [("--invert-match", 'v'), ("--ignore-case", 'i'),
      ("--count", 'c'), ("--line-number", 'n'), ("--quiet", 'q'), ("--only-matching", 'o')] 2
      arguments fun c => do
    let c := { c with letters := c.letters ++ extra }
    let given := (c.values.filter fun v => v.1 == 'e').map Prod.snd
    let (patterns, operands) := if given.isEmpty then (c.operands.take 1, c.operands.drop 1)
      else (given, c.operands)
    if patterns.isEmpty then
      Step.errText ("Usage: " ++ name ++ " [OPTION]... PATTERNS [FILE]...\n")
      seeHelp name
      return 2
    match grepRegex c (patterns.flatMap fun p => p.splitOn (ascii '\n')) with
    | none =>
      complainText name "Invalid regular expression"
      return 2
    | some regex =>
      let mut count := 0
      let mut failed := false
      let deep := c.has 'r'
      let files ← if deep then filesBelow operands else
        pure (if operands.isEmpty then [bytes "-"] else operands)
      let several := (operands.length > 1 || deep) && !c.has 'h'
      for file in files do
        match ← readPath file with
        | .ok content =>
          let shown := if file == bytes "-" then bytes "(standard input)" else file
          let label := if several || c.has 'H' || c.has 'l' then shown else []
          count := count + (← grepFile c regex label content)
        | .error e =>
          if !c.has 's' then complain name (file ++ bytes (": " ++ reason e))
          failed := true
      return if count > 0 && (c.has 'q' || !failed) then 0 else if failed then 2 else 1

def grep (arguments : List Octets) : Step Nat := grepAs "grep" [] arguments

/-! ## Editing lines -/

inductive Address where
  | line (n : Nat)
  | last
  | matching (regex : Regex)

/-- What an editing command does with a line. -/
inductive Edit where
  | substitute (regex : Regex) (replacement : Octets) (everywhere : Bool) (print fold : Bool)
  | delete
  | print
  | quit
  | number
  | transliterate (source target : Octets)
  | append (text : Octets)
  | insert (text : Octets)
  | change (text : Octets)

structure Editing where
  first : Option Address := none
  second : Option Address := none
  negated : Bool := false
  edit : Edit

/-- A text up to an unquoted separator, which is dropped. -/
def upToSeparator (separator : UInt8) : Octets → Option (Octets × Octets)
  | [] => none
  | b :: rest =>
    if b == separator then some ([], rest)
    else if asChar b == '\\' then
      match rest with
      | c :: rest => (upToSeparator separator rest).map fun (text, rest) =>
          ((if c == separator then [c]
            else if asChar c == 'n' then [ascii '\n'] else [b, c]) ++ text, rest)
      | [] => none
    else (upToSeparator separator rest).map fun (text, rest) => (b :: text, rest)

def readAddress (extended : Bool) (script : Octets) : Option (Option Address × Octets) :=
  match script with
  | b :: rest =>
    if isDigit b then
      let digits := script.takeWhile isDigit
      some (some (.line ((toNat? digits).getD 0)), script.drop digits.length)
    else if asChar b == '$' then some (some .last, rest)
    else if asChar b == '/' then do
      let (text, rest) ← upToSeparator b rest
      some (some (.matching (← Regex.parse extended text)), rest)
    else some (none, script)
  | [] => some (none, [])

def skipBlanks (s : Octets) : Octets :=
  s.dropWhile fun b => " \t;\n".toList.contains (asChar b)

/-- The text of a command that adds lines. -/
def addedText (rest : Octets) : Octets × Octets :=
  let rest := rest.dropWhile fun b => "\\ \n".toList.contains (asChar b)
  let line := rest.takeWhile fun b => asChar b != '\n'
  (line, rest.drop line.length)

def readEdit (extended : Bool) (script : Octets) : Option (Edit × Octets) :=
  match script with
  | [] => none
  | b :: rest =>
    match asChar b with
    | 'd' => some (.delete, rest)
    | 'p' => some (.print, rest)
    | 'q' => some (.quit, rest)
    | '=' => some (.number, rest)
    | 'a' => let (text, rest) := addedText rest; some (.append text, rest)
    | 'i' => let (text, rest) := addedText rest; some (.insert text, rest)
    | 'c' => let (text, rest) := addedText rest; some (.change text, rest)
    | 's' => do
      let separator ← rest.head?
      let (pattern, rest) ← upToSeparator separator rest.tail
      let (replacement, rest) ← upToSeparator separator rest
      let flags := rest.takeWhile fun b => "gpiI".toList.contains (asChar b)
      let has (c : Char) : Bool := flags.contains (ascii c)
      let regex ← Regex.parse extended pattern
      some (.substitute regex replacement (has 'g') (has 'p') (has 'i' || has 'I'),
        rest.drop flags.length)
    | 'y' => do
      let separator ← rest.head?
      let (source, rest) ← upToSeparator separator rest.tail
      let (target, rest) ← upToSeparator separator rest
      some (.transliterate source target, rest)
    | _ => none

def readEditings (extended : Bool) : Nat → Octets → Option (List Editing)
  | 0, _ => none
  | fuel + 1, script =>
    let script := skipBlanks script
    if script.isEmpty then some []
    else do
      let (first, script) ← readAddress extended script
      let (second, script) ← match script with
        | b :: rest => if asChar b == ',' then readAddress extended rest else some (none, script)
        | [] => some (none, [])
      let script := skipBlanks script
      let negated := script.head?.any fun b => asChar b == '!'
      let (edit, script) ← readEdit extended (if negated then skipBlanks script.tail else script)
      let rest ← readEditings extended fuel script
      some ({ first, second, negated, edit } :: rest)

/-- What a replacement stands for after a match. -/
def replacementText (found : Regex.Found) : Octets → Octets
  | [] => []
  | b :: rest =>
    if asChar b == '&' then found.text ++ replacementText found rest
    else if asChar b == '\\' then
      match rest with
      | c :: rest =>
        (if isDigit c then
          if asChar c == '0' then found.text
          else (found.groups.lookup (c.toNat - 48)).getD []
        else if asChar c == 't' then [ascii '\t'] else [c]) ++ replacementText found rest
      | [] => [b]
    else b :: replacementText found rest

/-- Replaces the first match, or every one. -/
def substituteAll (fold : UInt8 → UInt8) (regex : Regex) (replacement : Octets)
    (everywhere : Bool) : Nat → Octets → Octets → Option Octets
  | 0, _, _ => none
  | fuel + 1, before, after =>
    match Regex.searchFrom fold regex (after.length + 1) { before := before.reverse, after } with
    | none => none
    | some found =>
      let skipped := found.before.drop before.length
      let done := skipped ++ replacementText found replacement
      if !everywhere then some (done ++ found.after)
      else
        let (passed, rest) := if found.text.isEmpty then (found.after.take 1, found.after.drop 1)
          else ([], found.after)
        let more := if found.text.isEmpty && found.after.isEmpty then none
          else substituteAll fold regex replacement true fuel
            (found.before ++ found.text ++ passed) rest
        some (done ++ passed ++ more.getD rest)

def addressHolds (a : Address) (n total : Nat) (line : Octets) : Bool :=
  match a with
  | .line m => n = m
  | .last => n = total
  | .matching regex => (regex.search id line).isSome

/-- Whether a command applies to a line, and whether its range goes on. -/
def selects (e : Editing) (active : Bool) (n total : Nat) (line : Octets) : Bool × Bool :=
  match e.first, e.second with
  | none, _ => (!e.negated, false)
  | some a, none => (addressHolds a n total line != e.negated, false)
  | some a, some b =>
    let (inside, goesOn) :=
      if active then (true, !addressHolds b n total line)
      else if addressHolds a n total line then
        (true, match b with
          | .line m => n < m
          | _ => true)
      else (false, false)
    (inside != e.negated, goesOn)

/-- A line in the course of being edited. -/
structure Edited where
  line : Octets
  changed : Bool := false
  deleted : Bool := false
  quits : Bool := false
  /-- What is written before the line, last piece first. -/
  before : List Octets := []
  after : List Octets := []

def applyEdit (n : Nat) (s : Edited) : Edit → Edited
  | .substitute regex replacement everywhere print fold =>
    match substituteAll (if fold then lowerByte else id) regex replacement everywhere
        (s.line.length + 2) [] s.line with
    | none => s
    | some line =>
      { s with line, changed := true, before := if print then line :: s.before else s.before }
  | .delete => { s with deleted := true }
  | .print => { s with before := s.line :: s.before }
  | .quit => { s with quits := true }
  | .number => { s with before := decimal n :: s.before }
  | .transliterate source target =>
    { s with line := s.line.map fun b => match source.idxOf? b with
        | some i => (target[i]?).getD b
        | none => b }
  | .append text => { s with after := text :: s.after }
  | .insert text => { s with before := text :: s.before }
  | .change text => { s with before := text :: s.before, deleted := true }

/-- Edits a line with all commands; `active` are the ranges that are open. -/
def editLine (n total : Nat) : List (Editing × Bool) → Edited → Edited × List (Editing × Bool)
  | [], s => (s, [])
  | (e, active) :: rest, s =>
    let (applies, goesOn) := if s.deleted || s.quits then (false, active)
      else selects e active n total s.line
    let s := if applies then applyEdit n s e.edit else s
    let (s, rest) := editLine n total rest s
    (s, (e, goesOn) :: rest)

/-- The edited lines; a line is written at the end of its round unless `silent`. -/
def editLines (silent : Bool) (total : Nat) : Nat → List (Editing × Bool) → List Octets →
    List Octets
  | _, _, [] => []
  | n, editings, line :: rest =>
    let (s, editings) := editLine n total editings { line }
    let own := if s.deleted || silent then [] else [s.line]
    let out := s.before.reverse ++ own ++ s.after.reverse
    if s.quits then out else out ++ editLines silent total (n + 1) editings rest

/-- A text after its lines have been edited; the last line has an end only if it had one. -/
def edited (silent : Bool) (editings : List Editing) (input : Octets) : Octets :=
  let lines := linesOf input
  let text := unlines (editLines silent lines.length 1 (editings.map (·, false)) lines)
  if input.isEmpty || input.getLast? = some (ascii '\n') then text else text.dropLast

/-- What is wrong with a script. -/
def scriptProblem (script : Octets) : Octets :=
  bytes "-e expression #1, char " ++ decimal script.length ++ bytes ": " ++
    match (skipBlanks script).head?.map asChar with
    | some 's' => bytes "unterminated `s' command"
    | some 'y' => bytes "unterminated `y' command"
    | _ => bytes "unknown command or option"

def sed (arguments : List Octets) : Step Nat :=
  withCall "sed" "nErsuzi" "e" [("--quiet", 'n'), ("--expression", 'e'),
      ("--regexp-extended", 'E'), ("--in-place", 'i')] 1 arguments fun c => do
    let given := (c.values.filter fun v => v.1 == 'e').map Prod.snd
    let (scripts, operands) := if given.isEmpty then (c.operands.take 1, c.operands.drop 1)
      else (given, c.operands)
    if scripts.isEmpty then
      Step.errText "Usage: sed [OPTION]... \x7bscript-only-if-no-other-script\x7d [input-file]...\n"
      return 1
    let script := [ascii '\n'].intercalate scripts
    match readEditings (c.has 'E' || c.has 'r') (script.length + 2) script with
    | none =>
      complain "sed" (scriptProblem script)
      return 1
    | some editings =>
      let mut failed := false
      let mut input : Octets := []
      for file in if operands.isEmpty then [bytes "-"] else operands do
        match ← readPath file with
        | .ok content =>
          if c.has 'i' then
            let _ ← writeFile file false (edited (c.has 'n') editings content)
          else input := input ++ content
        | .error .isDirectory =>
          complain "sed" (bytes "couldn't edit " ++ file ++ bytes ": not a regular file")
          failed := true
        | .error e =>
          complain "sed" (bytes "can't read " ++ file ++ bytes (": " ++ reason e))
          failed := true
      Step.out (edited (c.has 'n') editings input)
      return if failed then 2 else 0

/-! ## Computing -/

/-- A value of `expr` counts as true unless it is empty or zero. -/
def isTrue (value : Octets) : Bool := !value.isEmpty && toInt? value != some 0

abbrev ExprReader := StateT (List Octets) (Except String)

def exprNext (words : List String) : ExprReader (Option String) := do
  match ← get with
  | [] => return none
  | first :: rest =>
    match words.find? fun w => bytes w == first with
    | some w =>
      set rest
      return some w
    | none => return none

def exprTruth (b : Bool) : Octets := if b then bytes "1" else bytes "0"

def exprCompare (op : String) (a b : Octets) : Octets :=
  let holds (less same : Bool) : Bool := match op with
    | "<" => less
    | "<=" => less || same
    | "=" | "==" => same
    | "!=" => !same
    | ">=" => !less
    | _ => !less && !same
  match toInt? a, toInt? b with
  | some m, some n => exprTruth (holds (decide (m < n)) (decide (m = n)))
  | _, _ => exprTruth (holds (decide (a < b)) (decide (a = b)))

def exprArithmetic (op : String) (a b : Octets) : Except String Octets :=
  match toInt? a, toInt? b with
  | some m, some n =>
    match op with
    | "+" => .ok (bytes (toString (m + n)))
    | "-" => .ok (bytes (toString (m - n)))
    | "*" => .ok (bytes (toString (m * n)))
    | "/" => if n = 0 then .error "division by zero" else .ok (bytes (toString (m.tdiv n)))
    | _ => if n = 0 then .error "division by zero" else .ok (bytes (toString (m.tmod n)))
  | _, _ => .error "non-integer argument"

/-- The part of a text that an expression matches from its start on, or the length of it. -/
def exprMatch (text pattern : Octets) : Octets :=
  match Regex.parse false pattern with
  | none => bytes "0"
  | some regex =>
    let hasGroup := (pattern.zip (pattern.drop 1)).any fun (a, b) =>
      asChar a == '\\' && asChar b == '('
    match Regex.run id (100 * (text.length + 100)) regex { before := [], after := text } some with
    | some q => if hasGroup then (q.groups.lookup 1).getD [] else decimal q.before.length
    | none => if hasGroup then [] else bytes "0"

def exprLevels : List (List String) :=
  [["|"], ["&"], ["<", "<=", "=", "==", "!=", ">=", ">"], ["+", "-"], ["*", "/", "%"], [":"]]

def exprApply (op : String) (a b : Octets) : Except String Octets :=
  match op with
  | "|" => .ok (if isTrue a then a else if isTrue b then b else bytes "0")
  | "&" => .ok (if isTrue a && isTrue b then a else bytes "0")
  | ":" => .ok (exprMatch a b)
  | "+" | "-" | "*" | "/" | "%" => exprArithmetic op a b
  | _ => .ok (exprCompare op a b)

mutual

def exprPrimary : Nat → ExprReader Octets
  | 0 => throw "syntax error"
  | fuel + 1 => do
    match ← exprNext ["(", "length", "substr", "index"] with
    | some "(" =>
      let value ← exprAt fuel exprLevels
      if (← exprNext [")"]).isNone then throw "syntax error: expecting ')' after '...'"
      return value
    | some "length" => return decimal (← exprPrimary fuel).length
    | some "substr" =>
      let text ← exprPrimary fuel
      let start := (toNat? (← exprPrimary fuel)).getD 0
      let count := (toNat? (← exprPrimary fuel)).getD 0
      return if start = 0 then [] else (text.drop (start - 1)).take count
    | some _ =>
      let text ← exprPrimary fuel
      let set ← exprPrimary fuel
      return match text.findIdx? set.contains with
        | some i => decimal (i + 1)
        | none => bytes "0"
    | none =>
      match ← get with
      | first :: rest =>
        set rest
        return first
      | [] => throw "syntax error: missing argument"

def exprAt : Nat → List (List String) → ExprReader Octets
  | 0, _ => throw "syntax error"
  | fuel + 1, [] => exprPrimary fuel
  | fuel + 1, level :: tighter => do exprFrom fuel level tighter (← exprAt fuel tighter)

def exprFrom : Nat → List String → List (List String) → Octets → ExprReader Octets
  | 0, _, _, _ => throw "syntax error"
  | fuel + 1, level, tighter, left => do
    match ← exprNext level with
    | some op =>
      let right ← exprAt fuel tighter
      exprFrom fuel level tighter (← exprApply op left right)
    | none => return left

end

def expr (arguments : List Octets) : Step Nat := do
  if arguments.isEmpty then return ← misuse "expr" "missing operand" 2
  match (exprAt (30 * (arguments.length + 2)) exprLevels).run arguments with
  | .error message =>
    complainText "expr" message
    return 2
  | .ok (value, []) =>
    Step.out (value ++ [ascii '\n'])
    return if isTrue value then 0 else 1
  | .ok (_, extra :: _) =>
    complain "expr" (bytes "syntax error: unexpected argument " ++ quoted extra)
    return 2

end ThemedShell.Utility
