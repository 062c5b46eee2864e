import ThemedShell.Output.Line

/-!
# Scrollback

A scrollback keeps the lines that have been appended since it was last cleared, and the theme that
was last applied. It is `ScrollbackSink`; `receive` is its `append`, `clear` and `apply_theme`.
-/
namespace ThemedShell

structure Scrollback where
  lines : List Line := []
  theme : Theme := {}
deriving DecidableEq, Repr, Inhabited

namespace Scrollback

def receive (s : Scrollback) : SinkCall → Scrollback
  | .append line => { s with lines := s.lines ++ [line] }
  | .clear => { s with lines := [] }
  | .applyTheme theme => { s with theme := theme }

/-- The scrollback after a series of calls. -/
def receiveAll (s : Scrollback) (calls : List SinkCall) : Scrollback := calls.foldl receive s

def withStyle (s : Scrollback) (style : LineStyle) : List Line :=
  s.lines.filter fun line => line.style = style

def last? (s : Scrollback) : Option Line := s.lines.getLast?

end Scrollback

end ThemedShell
