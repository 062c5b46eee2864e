import ThemedShell.CommandLanguage.Syntax

/-!
# The command language: patterns

A pattern describes texts: a star stands for any bytes, a question mark for one, brackets for one
of a set. Quoted bytes stand for themselves.
-/
namespace ThemedShell.CommandLanguage

open Text (Octets)

/-- A byte that is quoted or not. -/
structure Glyph where
  byte : UInt8
  quoted : Bool
deriving DecidableEq, Repr

inductive PatternItem where
  | many
  | one
  | exactly (b : UInt8)
  | among (negated : Bool) (ranges : List (UInt8 × UInt8))
deriving DecidableEq, Repr

abbrev Pattern := List PatternItem

namespace Pattern

/-! ## Matching -/

def inRanges (ranges : List (UInt8 × UInt8)) (b : UInt8) : Bool :=
  ranges.any fun (low, high) => low ≤ b && b ≤ high

/-- The text is one that the pattern describes. -/
def isMatch : Pattern → Octets → Bool
  | [], s => s.isEmpty
  | .many :: rest, [] => isMatch rest []
  | .many :: rest, b :: s => isMatch rest (b :: s) || isMatch (.many :: rest) s
  | .one :: rest, _ :: s => isMatch rest s
  | .exactly a :: rest, b :: s => a == b && isMatch rest s
  | .among negated ranges :: rest, b :: s => inRanges ranges b != negated && isMatch rest s
  | _ :: _, [] => false
termination_by p s => p.length + s.length

/-- The lengths of the beginnings of a text that the pattern describes, the shortest first. -/
def matchingStarts (p : Pattern) (s : Octets) : List Nat :=
  (List.range (s.length + 1)).filter fun n => isMatch p (s.take n)

/-- The lengths of what can be left in front of an end that the pattern describes, the shortest
first. -/
def matchingEnds (p : Pattern) (s : Octets) : List Nat :=
  (List.range (s.length + 1)).filter fun n => isMatch p (s.drop n)

/-! ## Writing patterns -/

/-- The bytes of a named class. -/
def classRanges (name : String) : Option (List (UInt8 × UInt8)) :=
  let range (a b : Char) : UInt8 × UInt8 := (ascii a, ascii b)
  match name with
  | "alpha" => some [range 'a' 'z', range 'A' 'Z']
  | "digit" => some [range '0' '9']
  | "alnum" => some [range 'a' 'z', range 'A' 'Z', range '0' '9']
  | "upper" => some [range 'A' 'Z']
  | "lower" => some [range 'a' 'z']
  | "space" => some [(9, 13), (32, 32)]
  | "blank" => some [(9, 9), (32, 32)]
  | "punct" => some [(33, 47), (58, 64), (91, 96), (123, 126)]
  | "cntrl" => some [(0, 31), (127, 127)]
  | "graph" => some [(33, 126)]
  | "print" => some [(32, 126)]
  | "xdigit" => some [range '0' '9', range 'a' 'f', range 'A' 'F']
  | _ => none

/-- The class whose name stands between colons at the beginning, and what follows it. -/
def leadingClass? (glyphs : List Glyph) : Option (List (UInt8 × UInt8) × List Glyph) :=
  match glyphs with
  | a :: b :: rest =>
    if asChar a.byte == '[' && asChar b.byte == ':' then
      let name := rest.takeWhile fun g => asChar g.byte != ':'
      match rest.drop name.length with
      | _ :: close :: rest =>
        if asChar close.byte == ']' then
          (classRanges (.ofList (name.map fun g => asChar g.byte))).map fun ranges => (ranges, rest)
        else none
      | _ => none
    else none
  | _ => none

/-- The set between brackets, up to the closing one. -/
def bracketRanges (first : Bool) : Nat → List Glyph → Option (List (UInt8 × UInt8) × List Glyph)
  | 0, _ => none
  | _ + 1, [] => none
  | fuel + 1, g :: rest =>
    if asChar g.byte == ']' && !g.quoted && !first then some ([], rest)
    else match if g.quoted then none else leadingClass? (g :: rest) with
      | some (ranges, rest) =>
        (bracketRanges false fuel rest).map fun (more, rest) => (ranges ++ more, rest)
      | none =>
        match rest with
        | dash :: high :: after =>
          if asChar dash.byte == '-' && !dash.quoted && (asChar high.byte != ']' || high.quoted) then
            (bracketRanges false fuel after).map fun (more, rest) =>
              ((g.byte, high.byte) :: more, rest)
          else (bracketRanges false fuel rest).map fun (more, rest) => ((g.byte, g.byte) :: more, rest)
        | _ => (bracketRanges false fuel rest).map fun (more, rest) => ((g.byte, g.byte) :: more, rest)

/-- The set that the bytes behind an opening bracket describe. -/
def bracket? (glyphs : List Glyph) : Option (PatternItem × List Glyph) :=
  let negated := match glyphs with
    | g :: _ => !g.quoted && asChar g.byte == '!'
    | [] => false
  let glyphs := if negated then glyphs.drop 1 else glyphs
  (bracketRanges true (glyphs.length + 1) glyphs).map fun (ranges, rest) =>
    (.among negated ranges, rest)

def ofGlyphsFrom : Nat → List Glyph → Pattern
  | 0, _ => []
  | _ + 1, [] => []
  | fuel + 1, g :: rest =>
    if g.quoted then .exactly g.byte :: ofGlyphsFrom fuel rest
    else match asChar g.byte with
      | '*' => .many :: ofGlyphsFrom fuel rest
      | '?' => .one :: ofGlyphsFrom fuel rest
      | '[' =>
        match bracket? rest with
        | some (item, rest) => item :: ofGlyphsFrom fuel rest
        | none => .exactly g.byte :: ofGlyphsFrom fuel rest
      | '\\' =>
        match rest with
        | next :: rest => .exactly next.byte :: ofGlyphsFrom fuel rest
        | [] => [.exactly g.byte]
      | _ => .exactly g.byte :: ofGlyphsFrom fuel rest

/-- The pattern that a text with quotes describes. -/
def ofGlyphs (glyphs : List Glyph) : Pattern := ofGlyphsFrom (glyphs.length + 1) glyphs

/-- The pattern that an unquoted text describes. -/
def ofBytes (bytes : Octets) : Pattern := ofGlyphs (bytes.map fun b => ⟨b, false⟩)

/-- A text that could describe others than itself. -/
def isWild (glyphs : List Glyph) : Bool :=
  glyphs.any fun g => !g.quoted && "*?[".toList.contains (asChar g.byte)

end Pattern

end ThemedShell.CommandLanguage
