import ThemedShell.Command.Basic
import ThemedShell.Color.Palette

/-!
# Commands on the surface

`bgcolor` and `fgcolor` change the theme, `cls` clears what has been written, `help` explains the
verbs. `setColor`, `clear` and `help` are `ColorCommand.execute`, `ClsCommand.execute` and
`HelpCommand.execute`; `layerName` and `suggestions` are `ColorLayer.label` and `ColorLayer.hint`.
-/
namespace ThemedShell.Command

variable {σ : Type}

/-! ## Colours -/

def layerName : Layer → String
  | .foreground => "Text"
  | .background => "Background"

/-- Colours that are suggested for a layer. -/
def suggestions : Layer → String
  | .foreground => "LimeGreen, White, Yellow, Cyan"
  | .background => "Black, Blue, Green, Red, White"

/-- Gives a layer the colour that the argument names. The surface learns the new theme before the
change is confirmed. -/
def setColor (layer : Layer) (argument : String) : Action σ Outcome := do
  match Color.parse argument with
  | .error unknown => throw (.unrecognizedColor unknown.token (suggestions layer))
  | .ok color =>
    let session ← Action.session
    let theme := session.theme.setLayer layer color
    Action.setSession { session with theme }
    Action.tell [.applyTheme theme]
    Action.note (.themeChanged layer color)
    Action.emit [.plain (layerName layer ++ " color changed to: " ++ color.name)]
    return .proceed

/-! ## The screen -/

def clear : Action σ Outcome := do
  Action.tell [.clear]
  return .proceed

def helpLines : List String :=
  ["Available commands:",
   "  cd <path>              - Change the current directory.",
   "  ls [path]              - List folders and files.",
   "  mkdir <name>           - Create a new folder.",
   "  cls                    - Clear the screen.",
   "  bgcolor <color_name>   - Change the background color (e.g. black, blue, red).",
   "  fgcolor <color_name>   - Change the text color (e.g. limegreen, white, yellow).",
   "  exec <command> [args]  - Run an external command (e.g. ping example.com).",
   "  help                   - Show this help.",
   "  exit                   - Close the terminal.",
   "Anything else is run as an external command."]

def help : Action σ Outcome := do
  Action.emit (helpLines.map .plain)
  return .proceed

end ThemedShell.Command
