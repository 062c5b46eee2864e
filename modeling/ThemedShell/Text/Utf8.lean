/-!
# UTF-8

`encode` writes a text as bytes. Reading goes byte by byte through a `Decoder`, which cuts the
input into characters and malformed stretches: a stretch is the longest run of bytes that begins a
well-formed character and cannot be continued, or one byte that begins none. `decodeLossy` writes
a replacement character for each stretch, `decode?` refuses texts that have one.
-/
namespace ThemedShell.Text

/-- A sequence of bytes. -/
abbrev Octets := List UInt8

def encode (s : String) : Octets := s.toList.flatMap String.utf8EncodeChar

/-! ## The decoder -/

/-- A character of which some bytes have been read: its value so far, the number of bytes to come,
and the bounds of the next one. -/
structure Begun where
  value : Nat
  need : Nat
  low : UInt8
  high : UInt8
deriving DecidableEq, Repr

/-- The decoder between two bytes. `read` holds what has been read, newest first, with `none` for
a malformed stretch. -/
structure Decoder where
  begun : Option Begun := none
  read : List (Option Char) := []

def within (low high b : UInt8) : Bool := low ≤ b && b ≤ high

/-- What a byte begins: nothing, a whole character, or a longer one. The bounds of the second byte
leave out overlong forms, surrogates and values beyond the last code point. -/
inductive Lead where
  | malformed
  | whole (c : Char)
  | begins (b : Begun)

def Lead.ofByte (b : UInt8) : Lead :=
  let n := b.toNat
  if b < 0x80 then .whole (Char.ofNat n)
  else if within 0xC2 0xDF b then .begins ⟨n - 0xC0, 1, 0x80, 0xBF⟩
  else if b = 0xE0 then .begins ⟨0, 2, 0xA0, 0xBF⟩
  else if b = 0xED then .begins ⟨0xD, 2, 0x80, 0x9F⟩
  else if within 0xE1 0xEF b then .begins ⟨n - 0xE0, 2, 0x80, 0xBF⟩
  else if b = 0xF0 then .begins ⟨0, 3, 0x90, 0xBF⟩
  else if within 0xF1 0xF3 b then .begins ⟨n - 0xF0, 3, 0x80, 0xBF⟩
  else if b = 0xF4 then .begins ⟨4, 3, 0x80, 0x8F⟩
  else .malformed

/-- Reads a byte with no character begun. -/
def Decoder.lead (read : List (Option Char)) (b : UInt8) : Decoder :=
  match Lead.ofByte b with
  | .malformed => ⟨none, none :: read⟩
  | .whole c => ⟨none, some c :: read⟩
  | .begins begun => ⟨some begun, read⟩

/-- A byte either continues the character that has begun, or ends it as malformed and is read
afresh. -/
def Decoder.step (d : Decoder) (b : UInt8) : Decoder :=
  match d.begun with
  | none => .lead d.read b
  | some begun =>
    if within begun.low begun.high b then
      let value := begun.value * 64 + (b.toNat - 0x80)
      if begun.need = 1 then ⟨none, some (Char.ofNat value) :: d.read⟩
      else ⟨some ⟨value, begun.need - 1, 0x80, 0xBF⟩, d.read⟩
    else .lead (none :: d.read) b

/-- All that has been read, in order; a character that lacks bytes is malformed. -/
def Decoder.finish (d : Decoder) : List (Option Char) :=
  (match d.begun with
    | none => d.read
    | some _ => none :: d.read).reverse

/-- The characters of a byte sequence, with `none` for each malformed stretch. -/
def decodeEach (bs : Octets) : List (Option Char) := (bs.foldl Decoder.step {}).finish

/-! ## Texts -/

def replacement : Char := '\ufffd'

/-- The text of a byte sequence, with a replacement character for each malformed stretch. -/
def decodeLossy (bs : Octets) : String := .ofList ((decodeEach bs).map (·.getD replacement))

/-- The text of a byte sequence that is well formed throughout. -/
def decode? (bs : Octets) : Option String :=
  let cs := decodeEach bs
  if cs.all Option.isSome then some (.ofList (cs.filterMap id)) else none

end ThemedShell.Text
