import ThemedShell.Text.Utf8

/-!
# Paths

A path is a sequence of bytes in which slashes separate the names of files. It is kept as it was
written; what a path leads to does not depend on repeated slashes or on single dots, and
`components` leaves them out.
-/
namespace ThemedShell

open Text (Octets)

/-- The name of an entry of a directory. -/
abbrev FileName := Octets

structure Path where
  bytes : Octets
deriving DecidableEq, Repr, Inhabited

namespace Path

def slash : UInt8 := 0x2F

def dot : UInt8 := 0x2E

def root : Path := ⟨[slash]⟩

def ofString (s : String) : Path := ⟨Text.encode s⟩

/-- The path as text; bytes that are no text are replaced. -/
def display (p : Path) : String := Text.decodeLossy p.bytes

/-- An absolute path starts at the root. -/
def isAbsolute (p : Path) : Bool := p.bytes.head? = some slash

/-- No separator is due after an empty path or after a slash. -/
def needsSlash (p : Path) : Bool := p.bytes.getLast?.any (· ≠ slash)

/-- The path `other` as seen from `p`: an absolute one stands for itself, a relative one is written
behind `p`. -/
def join (p other : Path) : Path :=
  if other.isAbsolute then other
  else if p.needsSlash then ⟨p.bytes ++ slash :: other.bytes⟩
  else ⟨p.bytes ++ other.bytes⟩

/-- The entry `name` of the directory `p`. -/
def entry (p : Path) (name : FileName) : Path := p.join ⟨name⟩

/-! ## Components -/

inductive Component where
  /-- Two dots: the directory above. -/
  | parent
  | name (name : FileName)
deriving DecidableEq, Repr

/-- The meaning of what stands between two slashes; nothing and a single dot mean nothing. -/
def Component.ofPiece (piece : Octets) : Option Component :=
  if piece = [] ∨ piece = [dot] then none
  else if piece = [dot, dot] then some .parent
  else some (.name piece)

def components (p : Path) : List Component :=
  (p.bytes.splitOn slash).filterMap Component.ofPiece

end Path

end ThemedShell
