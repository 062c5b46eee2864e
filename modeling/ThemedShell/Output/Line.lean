import ThemedShell.Theme

/-!
# Lines of output

A line of output carries a style, which says what the line is. The style and the theme decide the
colour it is shown in. `Line` is `OutputLine`, `LineStyle.color` is the function of that name, and a
`SinkCall` is a call of one of the three methods of an `OutputSink`.
-/
namespace ThemedShell

inductive LineStyle where
  | plain
  /-- The submitted line, echoed back. -/
  | echo
  | directory
  | file
  | error
  | warning
  | prompt
deriving DecidableEq, Repr

/-- Ordinary lines follow the foreground; every other style has a colour of its own. -/
def LineStyle.color (theme : Theme) : LineStyle → Color
  | .plain | .echo => theme.foreground
  | .directory => .cyan
  | .file => .white
  | .error => .red
  | .warning => .yellow
  | .prompt => .lightGray

structure Line where
  style : LineStyle
  text : String
deriving DecidableEq, Repr

namespace Line

def plain (text : String) : Line := ⟨.plain, text⟩

def echo (text : String) : Line := ⟨.echo, text⟩

def error (text : String) : Line := ⟨.error, text⟩

def warning (text : String) : Line := ⟨.warning, text⟩

def prompt (text : String) : Line := ⟨.prompt, text⟩

end Line

/-! ## What a host is told -/

/-- One thing that the interpreter tells the surface it writes to. -/
inductive SinkCall where
  | append (line : Line)
  | clear
  | applyTheme (theme : Theme)
deriving DecidableEq, Repr

end ThemedShell
