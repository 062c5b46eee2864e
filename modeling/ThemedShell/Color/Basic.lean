/-!
# Colours

A colour has a name and the intensities of red, green and blue. The colours that the library itself
refers to have names here; the whole palette is a table. `Color` is `NamedColor`.
-/
namespace ThemedShell

structure Intensities where
  red : UInt8
  green : UInt8
  blue : UInt8
deriving DecidableEq, Repr

structure Color where
  name : String
  rgb : Intensities
deriving DecidableEq, Repr

namespace Color

def black : Color := ⟨"Black", 0, 0, 0⟩

def cyan : Color := ⟨"Cyan", 0, 255, 255⟩

def lightGray : Color := ⟨"LightGray", 211, 211, 211⟩

def limeGreen : Color := ⟨"LimeGreen", 50, 205, 50⟩

def red : Color := ⟨"Red", 255, 0, 0⟩

def white : Color := ⟨"White", 255, 255, 255⟩

def yellow : Color := ⟨"Yellow", 255, 255, 0⟩

end Color

end ThemedShell
