import ThemedShell.CommandLanguage.Format
import ThemedShell.CommandLanguage.Pattern
import ThemedShell.Utility.Basic

/-!
# Utilities on texts

Utilities that read texts and write what they make of them: parts of them (`head`, `tail`, `cut`),
other orders (`sort`, `uniq`, `rev`, `tac`), other bytes (`tr`), numbers about them (`wc`, `od`,
`nl`), and a few that write texts of their own (`seq`, `basename`, `dirname`).
-/
namespace ThemedShell.Utility

open Text (Octets)
open CommandLanguage

/-! ## Beginnings and ends -/

/-- The first lines of a text. -/
def firstLines (n : Nat) (s : Octets) : Octets :=
  let lines := linesOf s
  if n < lines.length then unlines (lines.take n) else s

def lastLines (n : Nat) (s : Octets) : Octets :=
  let kept := (linesOf s).reverse.take n |>.reverse
  let text := unlines kept
  if s.getLast? = some (ascii '\n') then text else text.dropLast

/-- The old notation for a count, a bare number as option, in the usual one. -/
def countAsOption (arguments : List Octets) : List Octets :=
  match arguments with
  | first :: rest =>
    match first with
    | b :: digits =>
      if asChar b == '-' && !digits.isEmpty && digits.all isDigit then
        bytes "-n" :: digits :: rest
      else arguments
    | [] => arguments
  | [] => []

/-- Writes what `f` makes of each file, with headings if there are several. -/
def writeEach (f : Octets → Octets) (headings : Bool) (first : Bool) :
    List (Octets × Octets) → Step Unit
  | [] => return
  | (name, content) :: rest => do
    if headings then
      let shown := if name == bytes "-" then bytes "standard input" else name
      Step.out ((if first then [] else [ascii '\n']) ++ bytes "==> " ++ shown ++ bytes " <==\n")
    Step.out (f content)
    writeEach f headings false rest

/-- Runs `head` or `tail`: `onLines` and `onBytes` say what the counts mean. -/
def cutEnds (name : String) (arguments : List Octets) (onLines onBytes : Octets → Octets → Octets) :
    Step Nat :=
  withCall name "qv" "nc" [("--lines", 'n'), ("--bytes", 'c'), ("--quiet", 'q')] 1
      (countAsOption arguments) fun c => do
    let (files, ok) ← inputs name c.operands
    let headings := (c.operands.length > 1 && !c.has 'q') || c.has 'v'
    match c.value? 'c', c.value? 'n' with
    | some count, _ => writeEach (onBytes count) headings true files
    | none, some count =>
      if (toInt? count).isNone then
        complain name (bytes "invalid number of lines: " ++ quoted count)
        return 1
      writeEach (onLines count) headings true files
    | none, none => writeEach (onLines (bytes "10")) headings true files
    return if ok then 0 else 1

def head (arguments : List Octets) : Step Nat :=
  let take (count : Octets) (all : Nat) : Nat :=
    let n := (toInt? count).getD 0
    if n < 0 then all - n.natAbs else n.natAbs
  cutEnds "head" arguments (fun count s => firstLines (take count (linesOf s).length) s)
    (fun count s => s.take (take count s.length))

def tail (arguments : List Octets) : Step Nat :=
  let fromStart (count : Octets) : Bool := count.head?.any fun b => asChar b == '+'
  let n (count : Octets) : Nat := ((toInt? count).getD 0).natAbs
  cutEnds "tail" arguments
    (fun count s =>
      if fromStart count then
        lastLines ((linesOf s).length - (n count - 1)) s
      else lastLines (n count) s)
    (fun count s => if fromStart count then s.drop (n count - 1) else s.drop (s.length - n count))

/-! ## Counting -/

/-- The words of a text. -/
def countWords (s : Octets) : Nat :=
  (s.splitOnP fun b => " \t\n\x0b\x0c\r".toList.contains (asChar b)).countP fun w => !w.isEmpty

def wc (arguments : List Octets) : Step Nat :=
  withCall "wc" "lwcm" "" [("--lines", 'l'), ("--words", 'w'), ("--bytes", 'c'), ("--chars", 'm')] 1
      arguments fun c => do
    let (files, ok) ← inputs "wc" c.operands
    let letters := if c.letters.isEmpty then ['l', 'w', 'c'] else c.letters
    let counts (s : Octets) : List Nat :=
      (if letters.contains 'l' then [s.countP fun b => asChar b == '\n'] else [])
        ++ (if letters.contains 'w' then [countWords s] else [])
        ++ (if letters.contains 'm' then [s.length] else [])
        ++ (if letters.contains 'c' then [s.length] else [])
    let total := files.foldl (fun n f => n + f.2.length) 0
    let columns := (counts []).length
    let fromPipe := (c.operands.isEmpty || c.operands.contains (bytes "-"))
      && !(← Step.readsFile 0)
    let width := if fromPipe then
        (if columns = 1 && files.length ≤ 1 then 1 else 7)
      else if columns = 1 && files.length = 1 then 1
      else (decimal total).length
    let row (numbers : List Nat) (name : Octets) : Octets :=
      [ascii ' '].intercalate (numbers.map fun n => padLeft width (decimal n))
        ++ (if name.isEmpty then [] else ascii ' ' :: name) ++ [ascii '\n']
    for (name, content) in files do
      Step.out (row (counts content) (if c.operands.isEmpty then [] else name))
    if files.length > 1 then
      let sums := files.foldl (fun sums f => sums.zipWith (· + ·) (counts f.2))
        (List.replicate columns 0)
      Step.out (row sums (bytes "total"))
    return if ok then 0 else 1

def nl (arguments : List Octets) : Step Nat :=
  withCall "nl" "" "bnswv" [] 1 arguments fun c => do
    let every := c.value? 'b' = some (bytes "a")
    let number (s : Octets) : Octets :=
      ((linesOf s).foldl (fun (n, out) line =>
        if line.isEmpty && !every then (n, (bytes "       \n") :: out)
        else (n + 1, (padLeft 6 (decimal n) ++ [ascii '\t'] ++ line ++ [ascii '\n']) :: out))
        (1, ([] : List Octets))).2.reverse.flatten
    filter "nl" c.operands number

/-! ## Orders -/

def rev (arguments : List Octets) : Step Nat :=
  withCall "rev" "" "" [] 1 arguments fun c =>
    filter "rev" c.operands fun s => unlines ((linesOf s).map List.reverse)

def tac (arguments : List Octets) : Step Nat :=
  withCall "tac" "" "" [] 1 arguments fun c =>
    filter "tac" c.operands fun s => unlines (linesOf s).reverse

/-- The number at the beginning of a line, for sorting: its value times a power of ten. -/
def leadingNumber (line : Octets) : Int :=
  let body := line.dropWhile fun b => " \t".toList.contains (asChar b)
  let negative := body.head?.any fun b => asChar b == '-'
  let digits := if negative then body.drop 1 else body
  let whole := digits.takeWhile isDigit
  let rest := digits.drop whole.length
  let part := if rest.head?.any (fun b => asChar b == '.') then (rest.drop 1).takeWhile isDigit else []
  let scaled := (whole ++ (part ++ List.replicate 20 (ascii '0')).take 20).foldl
    (fun n b => n * 10 + (b.toNat - 48)) (0 : Nat)
  if negative then -(scaled : Int) else scaled

/-- The fields of a line from a first to a last one. -/
def sortKey (separator : Option UInt8) (key : Octets) (line : Octets) : Octets :=
  let bounds := (key.splitOn (ascii ',')).map fun part =>
    ((toNat? (part.takeWhile isDigit)).getD 1)
  let first := bounds.head?.getD 1
  let fields := match separator with
    | some b => line.splitOn b
    | none =>
      (line.splitOnP fun b => " \t".toList.contains (asChar b)).filter fun f => !f.isEmpty
  let last := match bounds with
    | [_, last] => last
    | _ => fields.length
  [separator.getD (ascii ' ')].intercalate ((fields.take last).drop (first - 1))

def sortLines (c : Call) (lines : List Octets) : List Octets :=
  let separator := (c.value? 't').bind List.head?
  let key := c.value? 'k'
  let has (letter : Char) : Bool :=
    c.has letter || key.any fun k => (k.map asChar).contains letter
  let keyOf (line : Octets) : Octets :=
    let line := match key with
      | some key => sortKey separator key line
      | none => line
    let line := if has 'b' then line.dropWhile fun b => asChar b == ' ' else line
    if has 'f' then line.map fun b => if 97 ≤ b && b ≤ 122 then b - 32 else b else line
  let before (a b : Octets) : Bool :=
    let (x, y) := (keyOf a, keyOf b)
    let (less, same) := if has 'n' then
        (decide (leadingNumber x < leadingNumber y), decide (leadingNumber x = leadingNumber y))
      else (decide (x < y), decide (x = y))
    if same then (if c.has 's' || c.has 'u' then true else if has 'r' then decide (b ≤ a) else decide (a ≤ b))
    else less != has 'r'
  let sorted := lines.mergeSort before
  if c.has 'u' then
    let same (a b : Octets) : Bool :=
      if has 'n' then decide (leadingNumber (keyOf a) = leadingNumber (keyOf b))
      else decide (keyOf a = keyOf b)
    (sorted.foldl (fun kept line => match kept with
      | last :: _ => if same last line then kept else line :: kept
      | [] => [line]) []).reverse
  else sorted

def sort (arguments : List Octets) : Step Nat :=
  withCall "sort" "rnufbsVhdiMgc" "ktoS" [("--reverse", 'r'), ("--unique", 'u'), ("--key", 'k'),
      ("--numeric-sort", 'n'), ("--field-separator", 't')] 2 arguments fun c => do
    let (files, ok) ← inputs "sort" c.operands
    if !ok then return 2
    Step.out (unlines (sortLines c (files.flatMap fun f => linesOf f.2)))
    return 0

/-- Runs of equal lines: the line and how many there are. -/
def groupLines (fold : Octets → Octets) (lines : List Octets) : List (Octets × Nat) :=
  (lines.foldl (fun groups line => match groups with
    | (last, n) :: rest => if fold last = fold line then (last, n + 1) :: rest else (line, 1) :: groups
    | [] => [(line, 1)]) []).reverse

def uniq (arguments : List Octets) : Step Nat :=
  withCall "uniq" "cdui" "" [("--count", 'c'), ("--repeated", 'd'), ("--unique", 'u')] 1 arguments
      fun c =>
    let fold : Octets → Octets := if c.has 'i' then List.map lowerByte else id
    filter "uniq" (c.operands.take 1) fun s =>
      let groups := (groupLines fold (linesOf s)).filter fun (_, n) =>
        (!c.has 'd' || n > 1) && (!c.has 'u' || n = 1)
      unlines (groups.map fun (line, n) =>
        if c.has 'c' then padLeft 7 (decimal n) ++ ascii ' ' :: line else line)

/-! ## Bytes -/

/-- The bytes that a set of `tr` lists, in order. -/
def trSet : Nat → Octets → Octets
  | 0, _ => []
  | _ + 1, [] => []
  | fuel + 1, b :: rest =>
    let className := match rest with
      | c :: _ => if asChar b == '[' && asChar c == ':' then
          some (String.ofList (((rest.drop 1).takeWhile fun b => asChar b != ':').map asChar))
        else none
      | [] => none
    match className.bind Pattern.classRanges with
    | some ranges =>
      let members := ranges.flatMap fun (low, high) =>
        (List.range (high.toNat - low.toNat + 1)).map fun (i : Nat) => low + i.toUInt8
      members.mergeSort (fun a b => decide (a ≤ b)) ++ trSet fuel (rest.drop ((className.getD "").length + 3))
    | none =>
      let (b, rest) := if asChar b == '\\' then
          (if rest.isEmpty then (b, rest) else
            match rest with
            | c :: after =>
              if Format.isOctal c || "\\abfnrtv".toList.contains (asChar c) then Format.escape rest
              else (c, after)
            | [] => (b, rest))
        else (b, rest)
      match rest with
      | dash :: high :: after =>
        if asChar dash == '-' then
          let (high, after) := if asChar high == '\\' then Format.escape after else (high, after)
          (List.range (high.toNat + 1 - b.toNat)).map (fun (i : Nat) => b + i.toUInt8) ++ trSet fuel after
        else b :: trSet fuel rest
      | _ => b :: trSet fuel rest

/-- Drops each byte of the set that follows an equal one. -/
def squeeze (set : Octets) (s : Octets) : Octets :=
  (s.foldl (fun out b => match out with
    | last :: _ => if last == b && set.contains b then out else b :: out
    | [] => [b]) []).reverse

def tr (arguments : List Octets) : Step Nat :=
  let c := readCall "cCdst" "" [("--delete", 'd'), ("--squeeze-repeats", 's'), ("--complement", 'c')]
    false (arguments.length + 1) arguments {}
  let set (i : Nat) : Octets := let text := (c.operands[i]?).getD []; trSet (text.length + 1) text
  let complement := c.has 'c' || c.has 'C'
  let first := if complement then
      ((List.range 256).map (·.toUInt8)).filter fun b => !(set 0).contains b
    else set 0
  match c.unknown, c.operands.length with
  | some option, _ => unknownOption "tr" option 1
  | none, 0 => misuse "tr" "missing operand" 1
  | none, n => do
    if n = 1 && !c.has 'd' && !c.has 's' then
      complain "tr" (bytes "missing operand after " ++ quoted ((c.operands[0]?).getD []))
      Step.errText "Two strings must be given when translating.\n"
      seeHelp "tr"
      return 1
    let input := match ← Step.readAll 0 with
      | .ok content => content
      | .error _ => []
    let second := set 1
    let replace (b : UInt8) : UInt8 := match first.idxOf? b with
      | some i => (second[i]?).getD (second.getLast?.getD b)
      | none => b
    let text :=
      if c.has 'd' then
        let kept := input.filter fun b => !first.contains b
        if c.has 's' then squeeze second kept else kept
      else if n = 1 then squeeze first input
      else
        let replaced := input.map replace
        if c.has 's' then squeeze second replaced else replaced
    Step.out text
    return 0

/-- The positions that a list of numbers and ranges names. -/
def positions (list : Octets) : Option (List (Nat × Option Nat)) :=
  (list.splitOn (ascii ',')).mapM fun item =>
    match item.splitOn (ascii '-') with
    | [one] => (toNat? one).map fun n => (n, some n)
    | [low, high] =>
      some (if low.isEmpty then 1 else (toNat? low).getD 1,
        if high.isEmpty then none else toNat? high)
    | _ => none

def inPositions (list : List (Nat × Option Nat)) (n : Nat) : Bool :=
  list.any fun (low, high) => low ≤ n && high.all fun h => n ≤ h

/-- The items whose places, counted from one, are in the list. -/
def pick {α : Type} (list : List (Nat × Option Nat)) (items : List α) : List α :=
  (items.zipIdx.filter fun (_, i) => inPositions list (i + 1)).map Prod.fst

def cut (arguments : List Octets) : Step Nat :=
  withCall "cut" "s" "dfcb" [("--fields", 'f'), ("--delimiter", 'd'), ("--characters", 'c'),
      ("--bytes", 'b')] 1 arguments fun c => do
    match (c.value? 'f'), ((c.value? 'c').or (c.value? 'b')) with
    | none, none => misuse "cut" "you must specify a list of bytes, characters, or fields" 1
    | some fields, _ =>
      match positions fields with
      | none => misuse "cut" "invalid field range" 1
      | some list =>
        let separator := ((c.value? 'd').bind List.head?).getD (ascii '\t')
        filter "cut" c.operands fun s =>
          unlines ((linesOf s).filterMap fun line =>
            if line.contains separator then
              some ([separator].intercalate (pick list (line.splitOn separator)))
            else if c.has 's' then none else some line)
    | none, some places =>
      match positions places with
      | none => misuse "cut" "invalid byte or character range" 1
      | some list => filter "cut" c.operands fun s => unlines ((linesOf s).map (pick list))

/-! ## Dumps -/

/-- A byte as `od -c` shows it. -/
def shownByte (b : UInt8) : Octets :=
  let text := match asChar b with
    | '\x00' => bytes "\\0"
    | '\x07' => bytes "\\a"
    | '\x08' => bytes "\\b"
    | '\t' => bytes "\\t"
    | '\n' => bytes "\\n"
    | '\x0b' => bytes "\\v"
    | '\x0c' => bytes "\\f"
    | '\r' => bytes "\\r"
    | _ => if isShown b then [b] else
        let n := b.toNat
        decimal (n / 64) ++ decimal (n / 8 % 8) ++ decimal (n % 8)
  padLeft 4 text

def digitsIn (base width : Nat) (n : Nat) : Octets :=
  let digits := (Nat.toDigits base n).map ascii
  List.replicate (width - digits.length) (ascii '0') ++ digits

/-- How a dump shows a group of bytes: the size of the group and the text. -/
def dumpFormat (kind : Octets) : Nat × (List UInt8 → Octets) :=
  let value (group : List UInt8) : Nat := group.foldr (fun b n => n * 256 + b.toNat) 0
  match kind.map asChar with
  | ['c'] => (1, fun g => shownByte (g.head?.getD 0))
  | ['x', '1'] => (1, fun g => ascii ' ' :: digitsIn 16 2 (value g))
  | ['o', '1'] => (1, fun g => ascii ' ' :: digitsIn 8 3 (value g))
  | ['u', '1'] => (1, fun g => padLeft 4 (decimal (value g)))
  | ['x', '2'] => (2, fun g => ascii ' ' :: digitsIn 16 4 (value g))
  | _ => (2, fun g => ascii ' ' :: digitsIn 8 6 (value g))

/-- Cuts a list into groups. -/
def chunks {α : Type} (size : Nat) : Nat → List α → List (List α)
  | 0, _ => []
  | _ + 1, [] => []
  | fuel + 1, items => items.take size :: chunks size fuel (items.drop size)

def od (arguments : List Octets) : Step Nat :=
  withCall "od" "cbxov" "AtNjw" [("--address-radix", 'A'), ("--format", 't')] 1 arguments fun c => do
    let (files, ok) ← inputs "od" c.operands
    let input := (files.map Prod.snd).flatten
    let input := input.drop (((c.value? 'j').bind toNat?).getD 0)
    let input := match (c.value? 'N').bind toNat? with
      | some n => input.take n
      | none => input
    let kind := if c.has 'c' then bytes "c" else if c.has 'b' then bytes "o1"
      else if c.has 'x' then bytes "x2"
      else match c.value? 't' with
        | some kind => if kind = bytes "x" || kind = bytes "o" then kind ++ bytes "2" else kind
        | none => bytes "o2"
    let (size, shown) := dumpFormat kind
    let address (n : Nat) : Octets := match (c.value? 'A').map (·.map asChar) with
      | some ['n'] => []
      | some ['d'] => digitsIn 10 7 n
      | some ['x'] => digitsIn 16 6 n
      | _ => digitsIn 8 7 n
    let rows := chunks 16 (input.length + 1) input
    let lines := rows.zipIdx.map fun (row, i) =>
      (row, address (16 * i) ++ ((chunks size (row.length + 1) row).map shown).flatten)
    let written := lines.foldl (fun (last, starred, out) (row, line) =>
      if last == some row && !c.has 'v' && row.length = 16 then
        (last, true, if starred then out else bytes "*" :: out)
      else (some row, false, line :: out)) ((none : Option (List UInt8)), false, ([] : List Octets))
    let last := address input.length
    if !files.isEmpty then
      Step.out (unlines (written.2.2.reverse ++ if last.isEmpty then [] else [last]))
    return if ok then 0 else 1

/-! ## Numbers and names -/

/-- The numbers from a first to a last one. -/
def numbersFrom (step last : Int) : Nat → Int → List Int
  | 0, _ => []
  | fuel + 1, n =>
    if (if step < 0 then n < last else n > last) then [] else n :: numbersFrom step last fuel (n + step)

def seq (arguments : List Octets) : Step Nat := do
  let c := readCall "w" "sf" [("--separator", 's'), ("--equal-width", 'w')] false
    (arguments.length + 1)
    (if arguments.head?.any fun a => (toInt? a).isSome then bytes "--" :: arguments else arguments) {}
  match c.unknown with
  | some option => unknownOption "seq" option 1
  | none =>
    match c.operands.find? fun a => (toInt? a).isNone with
    | some wrong =>
      complain "seq" (bytes "invalid floating point argument: " ++ quoted wrong)
      seeHelp "seq"
      return 1
    | none =>
      let write (first step last : Int) : Step Nat := do
        if step = 0 then
          complainText "seq" "invalid Zero increment value: '0'"
          seeHelp "seq"
          return 1
        let numbers := numbersFrom step last ((last - first).natAbs + 1) first
        let texts := numbers.map fun n => toString n
        let width := (texts.map String.length).foldl max 0
        let wide (s : String) : Octets :=
          if c.has 'w' then
            (if s.startsWith "-" then bytes "-" ++ List.replicate (width - s.length) (ascii '0')
                ++ (bytes s).drop 1
              else List.replicate (width - s.length) (ascii '0') ++ bytes s)
          else bytes s
        if texts.isEmpty then return 0
        Step.out ((c.value? 's').getD [ascii '\n'] |>.intercalate (texts.map wide))
        Step.out [ascii '\n']
        return 0
      match c.operands.map fun a => (toInt? a).getD 0 with
      | [last] => write 1 1 last
      | [first, last] => write first 1 last
      | [first, step, last] => write first step last
      | [] => misuse "seq" "missing operand" 1
      | _ =>
        complain "seq" (bytes "extra operand " ++ quoted ((c.operands[3]?).getD []))
        seeHelp "seq"
        return 1

/-- A path without slashes at its end. -/
def dropSlashes (path : Octets) : Octets :=
  let kept := (path.reverse.dropWhile (· == Path.slash)).reverse
  if kept.isEmpty then path.take 1 else kept

/-- The last name of a path. -/
def lastName (path : Octets) : Octets :=
  let path := dropSlashes path
  if path == [Path.slash] then path
  else (path.reverse.takeWhile (· != Path.slash)).reverse

/-- A path without its last name. -/
def withoutLastName (path : Octets) : Octets :=
  let path := dropSlashes path
  if path == [Path.slash] then path
  else
    let front := (path.reverse.dropWhile (· != Path.slash)).reverse
    if front.isEmpty then [Path.dot] else dropSlashes front

def basename (arguments : List Octets) : Step Nat :=
  withCall "basename" "az" "s" [] 1 arguments fun c => do
    let write (name ending : Octets) : Step Unit :=
      let name := lastName name
      let cut := if ending.isSuffixOf name && name != ending then
          name.take (name.length - ending.length) else name
      Step.out (cut ++ [ascii '\n'])
    match c.operands with
    | [] => misuse "basename" "missing operand" 1
    | name :: rest =>
      if c.has 'a' || (c.value? 's').isSome then
        for name in c.operands do write name ((c.value? 's').getD [])
        return 0
      match rest with
      | [] => write name []; return 0
      | [ending] => write name ending; return 0
      | _ :: extra :: _ =>
        complain "basename" (bytes "extra operand " ++ quoted extra)
        seeHelp "basename"
        return 1

def dirname (arguments : List Octets) : Step Nat :=
  withCall "dirname" "z" "" [] 1 arguments fun c => do
    if c.operands.isEmpty then misuse "dirname" "missing operand" 1
    else
      Step.out (unlines (c.operands.map withoutLastName))
      return 0

end ThemedShell.Utility
