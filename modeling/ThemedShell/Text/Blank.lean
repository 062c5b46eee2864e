import ThemedShell.Text.CharClass

/-!
# Blank characters

The blank characters are those with the property White_Space. Words are separated by them, and
`trim` and `trimEnd` take them off the ends of a text. The work is done on lists of
characters; `String` appears only at the edge.
-/
namespace ThemedShell.Text

/-- The property White_Space. -/
def blankRanges : CharClass :=
  [(0x9, 0xD), (0x20, 0x20), (0x85, 0x85), (0xA0, 0xA0), (0x1680, 0x1680), (0x2000, 0x200A),
   (0x2028, 0x2029), (0x202F, 0x202F), (0x205F, 0x205F), (0x3000, 0x3000)]

def isBlank (c : Char) : Bool := blankRanges.has c

/-! ## Lists of characters -/

def dropBlanks (cs : List Char) : List Char := cs.dropWhile isBlank

def dropBlanksEnd (cs : List Char) : List Char := (dropBlanks cs.reverse).reverse

def stripBlanks (cs : List Char) : List Char := dropBlanksEnd (dropBlanks cs)

/-! ## Texts -/

def trimEnd (s : String) : String := .ofList (dropBlanksEnd s.toList)

/-- A text without the blanks at either end. -/
def trim (s : String) : String := .ofList (stripBlanks s.toList)

/-- A text that is empty or holds blanks only. -/
def isBlankText (s : String) : Bool := s.toList.all isBlank

@[simp] theorem toList_trimEnd (s : String) : (trimEnd s).toList = dropBlanksEnd s.toList := by
  simp [trimEnd]

@[simp] theorem toList_trim (s : String) : (trim s).toList = stripBlanks s.toList := by
  simp [trim]

end ThemedShell.Text
