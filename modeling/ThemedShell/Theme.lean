import ThemedShell.Color.Basic

/-!
# Themes

A theme is a pair of colours: one for the text and one for what lies behind it. A `Layer` is one of
the two, `ColorLayer`.
-/
namespace ThemedShell

structure Theme where
  foreground : Color := .limeGreen
  background : Color := .black
deriving DecidableEq, Repr, Inhabited

/-- One of the two colours of a theme. -/
inductive Layer where
  | foreground | background
deriving DecidableEq, Repr

namespace Theme

def layer (theme : Theme) : Layer → Color
  | .foreground => theme.foreground
  | .background => theme.background

def setLayer (theme : Theme) (layer : Layer) (color : Color) : Theme :=
  match layer with
  | .foreground => { theme with foreground := color }
  | .background => { theme with background := color }

@[simp] theorem layer_setLayer (theme : Theme) (l : Layer) (c : Color) :
    (theme.setLayer l c).layer l = c := by
  cases l <;> rfl

theorem layer_setLayer_of_ne (theme : Theme) {l m : Layer} (h : l ≠ m) (c : Color) :
    (theme.setLayer l c).layer m = theme.layer m := by
  cases l <;> cases m <;> simp_all [setLayer, layer]

end Theme

end ThemedShell
