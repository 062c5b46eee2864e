import ThemedShell.CommandLanguage.Pattern

/-!
# Regular expressions

Basic and extended regular expressions over bytes. An expression is a tree; matching tries the
possibilities in order and prefers longer repetitions.
-/
namespace ThemedShell.Utility

open Text (Octets)
open CommandLanguage (asChar ascii isDigit)

inductive Regex where
  | empty
  | byte (b : UInt8)
  | any
  | among (negated : Bool) (ranges : List (UInt8 × UInt8))
  | start
  | finish
  | follow (first second : Regex)
  | choice (first second : Regex)
  | times (least : Nat) (most : Option Nat) (body : Regex)
  | group (number : Nat) (body : Regex)
  | recall (number : Nat)
deriving Inhabited

namespace Regex

/-! ## Reading -/

/-- What is left to be read, and how many groups have been opened. -/
structure Source where
  rest : Octets
  groups : Nat := 0

abbrev Reader := StateT Source Option

def next? : Reader (Option UInt8) := do
  match (← get).rest with
  | [] => return none
  | b :: rest =>
    modify ({ · with rest })
    return some b

/-- Takes the given text if it comes next. -/
def accept (s : String) : Reader Bool := do
  let bytes := Text.encode s
  let rest := (← get).rest
  if bytes.isPrefixOf rest then
    modify ({ · with rest := rest.drop bytes.length })
    return true
  else return false

def readNat : Reader (Option Nat) := do
  let rest := (← get).rest
  let digits := rest.takeWhile isDigit
  modify ({ · with rest := rest.drop digits.length })
  if digits.isEmpty then return none
  else return some (digits.foldl (fun n b => n * 10 + (b.toNat - 48)) 0)

/-- The bounds of a repetition in braces. -/
def readBounds (close : String) : Reader (Nat × Option Nat) := do
  let least ← readNat
  if ← accept "," then
    let most ← readNat
    if ← accept close then return (least.getD 0, most) else failure
  else if ← accept close then
    match least with
    | some n => return (n, some n)
    | none => failure
  else failure

mutual

/-- Alternatives. -/
def readChoice : Nat → Bool → Reader Regex
  | 0, _ => failure
  | fuel + 1, extended => do
    let first ← readSequence fuel extended .empty true
    if ← accept (if extended then "|" else "\\|") then
      return .choice first (← readChoice fuel extended)
    else return first

/-- What follows `before`; `atStart` says that nothing does yet. -/
def readSequence : Nat → Bool → Regex → Bool → Reader Regex
  | 0, _, _, _ => failure
  | fuel + 1, extended, before, atStart => do
    let s := (← get).rest.map asChar
    let ends := match s with
      | [] => true
      | '|' :: _ | ')' :: _ => extended
      | '\\' :: '|' :: _ | '\\' :: ')' :: _ => !extended
      | _ => false
    if ends then return before
    let atom ← readAtom fuel extended atStart
    let atom ← readRepeats fuel extended atom
    readSequence fuel extended (.follow before atom) false

/-- The repetitions behind an atom. -/
def readRepeats : Nat → Bool → Regex → Reader Regex
  | 0, _, _ => failure
  | fuel + 1, extended, atom => do
    match atom with
    | .start => return atom
    | _ =>
      if ← accept "*" then readRepeats fuel extended (.times 0 none atom)
      else if ← accept (if extended then "+" else "\\+") then
        readRepeats fuel extended (.times 1 none atom)
      else if ← accept (if extended then "?" else "\\?") then
        readRepeats fuel extended (.times 0 (some 1) atom)
      else if ← accept (if extended then "\x7b" else "\\\x7b") then
        let (least, most) ← readBounds (if extended then "\x7d" else "\\\x7d")
        readRepeats fuel extended (.times least most atom)
      else return atom

def readAtom : Nat → Bool → Bool → Reader Regex
  | 0, _, _ => failure
  | fuel + 1, extended, atStart => do
    if ← accept (if extended then "(" else "\\(") then
      let number := (← get).groups + 1
      modify ({ · with groups := number })
      let body ← readChoice fuel extended
      if ← accept (if extended then ")" else "\\)") then return .group number body else failure
    else
      match ← next? with
      | none => failure
      | some b =>
        match asChar b with
        | '.' => return .any
        | '^' => if extended || atStart then return .start else return .byte b
        | '$' =>
          let rest := (← get).rest.map asChar
          let ends := match rest with
            | [] => true
            | '\\' :: ')' :: _ | '\\' :: '|' :: _ => !extended
            | _ => extended
          if ends then return .finish else return .byte b
        | '[' =>
          let rest := (← get).rest
          let negated := rest.head?.any fun b => asChar b == '^'
          let glyphs := (if negated then rest.drop 1 else rest).map fun b =>
            (⟨b, false⟩ : CommandLanguage.Glyph)
          match CommandLanguage.Pattern.bracketRanges true (glyphs.length + 1) glyphs with
          | none => failure
          | some (ranges, glyphs) =>
            modify ({ · with rest := glyphs.map (·.byte) })
            return .among negated ranges
        | '\\' =>
          match ← next? with
          | none => failure
          | some c =>
            if isDigit c && asChar c != '0' then return .recall (c.toNat - 48)
            match asChar c with
            | 'w' => return .among false wordRanges
            | 'W' => return .among true wordRanges
            | 's' => return .among false [(9, 13), (32, 32)]
            | 'S' => return .among true [(9, 13), (32, 32)]
            | _ => return .byte c
        | _ => return .byte b
where
  /-- Letters, digits and the underscore. -/
  wordRanges : List (UInt8 × UInt8) := [(48, 57), (65, 90), (95, 95), (97, 122)]

end

/-- The expression that a text describes. -/
def parse (extended : Bool) (bytes : Octets) : Option Regex := do
  let (regex, s) ← (readChoice (8 * (bytes.length + 2)) extended).run { rest := bytes }
  if s.rest.isEmpty then some regex else none

/-! ## Matching -/

/-- The text, with the position in it and what the groups have matched. -/
structure Position where
  before : Octets
  after : Octets
  groups : List (Nat × Octets) := []

/-- What has been passed between two positions. -/
def between (p q : Position) : Octets := (q.before.take (q.before.length - p.before.length)).reverse

/-- Matches from a position on, and goes on with `k` where that succeeds. `fold` makes the case of
letters not matter. -/
def run (fold : UInt8 → UInt8) : Nat → Regex → Position → (Position → Option Position) →
    Option Position
  | 0, _, _, _ => none
  | fuel + 1, regex, p, k =>
    let one (accepts : UInt8 → Bool) : Option Position := match p.after with
      | b :: rest => if accepts b then k { p with before := b :: p.before, after := rest } else none
      | [] => none
    match regex with
    | .empty => k p
    | .byte b => one fun c => fold c == fold b
    | .any => one fun _ => true
    | .among negated ranges =>
      one fun c => (CommandLanguage.Pattern.inRanges ranges c
        || CommandLanguage.Pattern.inRanges ranges (fold c)) != negated
    | .start => if p.before.isEmpty then k p else none
    | .finish => if p.after.isEmpty then k p else none
    | .follow first second => run fold fuel first p fun q => run fold fuel second q k
    | .choice first second => (run fold fuel first p k).or (run fold fuel second p k)
    | .group number body =>
      run fold fuel body p fun q => k { q with groups := (number, between p q) :: q.groups }
    | .recall number =>
      let wanted := (p.groups.lookup number).getD []
      if wanted.isPrefixOf p.after then
        k { p with
          before := wanted.reverse ++ p.before
          after := p.after.drop wanted.length }
      else none
    | .times least most body =>
      if most = some 0 then k p
      else
        let more := run fold fuel body p fun q =>
          if q.before.length = p.before.length then (if least = 0 then none else k q)
          else run fold fuel (.times (least - 1) (most.map (· - 1)) body) q k
        if least = 0 then more.or (k p) else more

/-- A match: what stands before it, the match, what stands after it, and the groups. -/
structure Found where
  before : Octets
  text : Octets
  after : Octets
  groups : List (Nat × Octets)

/-- The first match at or behind a position. -/
def searchFrom (fold : UInt8 → UInt8) (regex : Regex) : Nat → Position → Option Found
  | 0, _ => none
  | fuel + 1, p =>
    match run fold (100 * (p.after.length + 100)) regex p some with
    | some q =>
      some { before := p.before.reverse, text := between p q, after := q.after, groups := q.groups }
    | none =>
      match p.after with
      | [] => none
      | b :: rest => searchFrom fold regex fuel { p with before := b :: p.before, after := rest }

/-- The first match in a text. -/
def search (fold : UInt8 → UInt8) (regex : Regex) (bytes : Octets) : Option Found :=
  searchFrom fold regex (bytes.length + 1) { before := [], after := bytes }

end Regex

end ThemedShell.Utility
