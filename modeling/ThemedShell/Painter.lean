import ThemedShell.Color.Basic
import ThemedShell.Environment
import ThemedShell.Text.Lowercase

/-!
# Painting

A painter writes a text in two colours, or leaves it alone where no colours are shown. Which colours
a terminal shows and what a text in colours looks like is left to a library for styled texts: all
that is known of it is a `Styling`, and every statement about painters holds of any. `Styling.usual`
is the one that the program is linked with.

`Painter.new`, `plain`, `isPlain` and `paint` are the functions of the same names; `Styling.support?`
stands for `check_color_support` and `Styling.styled` for a text that is given a style.
-/
namespace ThemedShell

/-! ## Styled texts -/

/-- The colours that a terminal shows. -/
inductive ColorSupport where
  | noColor
  /-- Sixteen colours. -/
  | basic
  /-- A palette of 256 colours. -/
  | palette
  | trueColor
deriving DecidableEq, Repr

/-- A library for styled texts. -/
structure Styling where
  /-- The colours that the terminal shows, if that can be told. -/
  support? : Environment → Option ColorSupport
  /-- A text in a foreground colour, on a background colour. -/
  styled : Intensities → Intensities → String → String

namespace Styling

/-- A styled text is the text between what sets its two colours and what takes them back. -/
def Wraps (styling : Styling) (opening : Intensities → Intensities → String)
    (closing : String) : Prop :=
  ∀ foreground background text,
    styling.styled foreground background text = opening foreground background ++ text ++ closing

/-! ### The usual library -/

def decimals (c : Intensities) : String :=
  toString c.red.toNat ++ ";" ++ toString c.green.toNat ++ ";" ++ toString c.blue.toNat

/-- Sets the colour of the text. -/
def foregroundSequence (c : Intensities) : String := "\x1b[38;2;" ++ decimals c ++ "m"

/-- Sets the colour behind the text. -/
def backgroundSequence (c : Intensities) : String := "\x1b[48;2;" ++ decimals c ++ "m"

/-- Sets both colours. -/
def setColors (foreground background : Intensities) : String :=
  foregroundSequence foreground ++ backgroundSequence background

/-- Takes back both colours. -/
def resetSequence : String := "\x1b[0m"

/-- The text `part` occurs in the list of characters. -/
def occurs (part : List Char) : List Char → Bool
  | [] => part.isEmpty
  | c :: rest => part.isPrefixOf (c :: rest) || occurs part rest

def mentions (text : String) (parts : List String) : Bool :=
  parts.any fun part => occurs part.toList text.toList

/-- Terminals that show any colour. -/
def fullColourTerminals : List String :=
  ["xterm-truecolor", "konsole", "tmux", "screen-truecolor", "alacritty", "kitty", "terminator",
   "terminology", "eterm", "rxvt-unicode", "xterm-ghostty", "vte", "termious"]

/-- Programs that show any colour. -/
def fullColourPrograms : List String := ["iTerm.app", "Apple_Terminal", "Hyper"]

/-- Kinds of terminal that show some colours. -/
def someColourTerminals : List String := ["color", "ansi", "xterm", "screen"]

/-- The variables that forbid colours go before those that speak for them. -/
def usualSupport (env : Environment) : ColorSupport :=
  let term := Text.lowercase ((env.value? "TERM").getD "")
  if (env.value? "NO_COLOR").isSome then .noColor
  else if env.value? "CLICOLOR" = some "0" then .noColor
  else if mentions ((env.value? "COLORTERM").getD "") ["truecolor", "24bit"]
    || mentions term fullColourTerminals
    || fullColourPrograms.contains ((env.value? "TERM_PROGRAM").getD "") then .trueColor
  else if mentions term ["256"] then .palette
  else if mentions term someColourTerminals || env.value? "CLICOLOR_FORCE" = some "1" then .basic
  else .noColor

def usual : Styling where
  support? env := some (usualSupport env)
  styled foreground background text := setColors foreground background ++ text ++ resetSequence

theorem wraps_usual : usual.Wraps setColors resetSequence := fun _ _ _ => rfl

end Styling

/-! ## Painters -/

structure Painter where
  support : ColorSupport
  styling : Styling

namespace Painter

/-- The painter that suits the terminal. If it cannot be told what the terminal shows, the painter
uses no colours. -/
def new (styling : Styling) (env : Environment) : Painter :=
  { support := (styling.support? env).getD .noColor, styling }

/-- Uses no colours, so it does not matter which library it has. -/
def plain : Painter := { support := .noColor, styling := .usual }

/-- The painter of the usual library that suits the terminal. -/
def ofEnvironment (env : Environment) : Painter := new .usual env

def isPlain (p : Painter) : Bool := p.support = .noColor

/-- The text in the two colours. An empty text needs no colours. -/
def paint (p : Painter) (text : String) (foreground background : Color) : String :=
  if p.isPlain || text.isEmpty then text
  else p.styling.styled foreground.rgb background.rgb text

@[simp] theorem isPlain_plain : plain.isPlain = true := rfl

theorem paint_of_isPlain {p : Painter} (h : p.isPlain = true) (text : String)
    (foreground background : Color) : p.paint text foreground background = text := by
  simp [paint, h]

@[simp] theorem paint_empty (p : Painter) (foreground background : Color) :
    p.paint "" foreground background = "" := by
  simp [paint]

/-- What a painter writes if styled texts are wrapped. -/
theorem paint_eq {p : Painter} {opening : Intensities → Intensities → String} {closing : String}
    (wraps : p.styling.Wraps opening closing) (text : String) (foreground background : Color) :
    p.paint text foreground background =
      if p.isPlain = true ∨ text = "" then text
      else opening foreground.rgb background.rgb ++ text ++ closing := by
  simp only [paint, Bool.or_eq_true, String.isEmpty_iff, wraps _ _ _]

end Painter

end ThemedShell
