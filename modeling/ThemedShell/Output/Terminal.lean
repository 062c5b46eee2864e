import ThemedShell.Log
import ThemedShell.Output.Line
import ThemedShell.Painter

/-!
# Terminal

A terminal shows lines as they come, painted in the colours of the theme that was last applied. The
line editor shows what the user types behind the prompt; so echoed lines are not shown at all, and
a prompt is held back until the editor takes it. Each write may fail; the held prompt and the theme
do not depend on that.

The theme is kept in a cell that others know by its address, the input field among them. `Terminal`
is `TerminalSink` with all the cells there are, `receive` its `append`, `clear` and `apply_theme`;
`handle` is `theme_handle`. `InputField` is `InputHelper`. The texts that clear a screen belong to
the device, since a library writes them.
-/
namespace ThemedShell

/-! ## Devices -/

/-- The usual texts that drop the lines kept above the screen, blank the screen, and go to its first
place. -/
def usualClearing : List String := ["\x1b[3J", "\x1b[2J", "\x1b[1;1H"]

/-- Something that text is written to. Each operation says whether it succeeded. -/
structure Device (δ : Type) where
  write : String → StateM δ Bool
  flush : StateM δ Bool
  /-- What is written to clear it. -/
  clearing : List String := usualClearing

namespace Device

/-- Keeps all that is written. -/
def buffer : Device String where
  write s := fun written => (true, written ++ s)
  flush := fun written => (true, written)

/-- Fails at every write. -/
def broken : Device String where
  write _ := fun written => (false, written)
  flush := fun written => (false, written)

variable {δ : Type}

/-- Writes the texts in order and flushes; stops at the first failure. -/
def writeAll (dev : Device δ) : List String → StateM δ Bool
  | [] => dev.flush
  | s :: rest => do if ← dev.write s then writeAll dev rest else return false

/-- The state of a device once texts have been sent to it. -/
def send (dev : Device δ) (texts : List String) (state : δ) : δ := (dev.writeAll texts state).2

end Device

/-! ## Cells -/

/-- The address of a cell that holds a theme. Whoever has it finds there what was written last. -/
structure ThemeHandle where
  address : Nat := 0
deriving DecidableEq, Repr

/-- The cells that hold themes. A new one holds the first theme. -/
structure ThemeCells where
  read : ThemeHandle → Theme := fun _ => {}

namespace ThemeCells

def write (cells : ThemeCells) (handle : ThemeHandle) (theme : Theme) : ThemeCells :=
  ⟨fun other => if other = handle then theme else cells.read other⟩

@[simp] theorem read_write_self (cells : ThemeCells) (handle : ThemeHandle) (theme : Theme) :
    (cells.write handle theme).read handle = theme := by
  simp [write]

theorem read_write_of_ne (cells : ThemeCells) {handle other : ThemeHandle} (h : other ≠ handle)
    (theme : Theme) : (cells.write handle theme).read other = cells.read other := by
  simp [write, h]

end ThemeCells

/-! ## The terminal -/

structure Terminal (δ : Type) where
  device : δ
  painter : Painter
  /-- The cell that holds the theme. -/
  handle : ThemeHandle := {}
  /-- All cells, whoever has their addresses. -/
  cells : ThemeCells := {}
  /-- The last prompt, if it came after the last clearing and has not been taken yet. -/
  held : Option String := none

namespace Terminal

variable {δ : Type}

def theme (t : Terminal δ) : Theme := t.cells.read t.handle

/-- A line as it is shown. -/
def painted (t : Terminal δ) (line : Line) : String :=
  t.painter.paint line.text (line.style.color t.theme) t.theme.background

/-- What is written for a call. -/
def outputOf (dev : Device δ) (t : Terminal δ) : SinkCall → Option (List String)
  | .append line =>
    match line.style with
    | .echo | .prompt => none
    | _ => some [t.painted line, "\n"]
  | .clear => some dev.clearing
  | .applyTheme _ => none

/-- The prompt that is held after a call. -/
def heldAfter (t : Terminal δ) : SinkCall → Option String
  | .append line => if line.style = .prompt then some line.text else t.held
  | .clear => none
  | .applyTheme _ => t.held

/-- The cells after a call. -/
def cellsAfter (t : Terminal δ) : SinkCall → ThemeCells
  | .applyTheme theme => t.cells.write t.handle theme
  | _ => t.cells

def receive (dev : Device δ) (t : Terminal δ) (call : SinkCall) : Terminal δ :=
  { t with
    device := match t.outputOf dev call with
      | some texts => dev.send texts t.device
      | none => t.device
    held := t.heldAfter call
    cells := t.cellsAfter call }

def receiveAll (dev : Device δ) (t : Terminal δ) (calls : List SinkCall) : Terminal δ :=
  calls.foldl (receive dev) t

/-- The editor takes the held prompt. -/
def takePrompt (t : Terminal δ) : Option String × Terminal δ := (t.held, { t with held := none })

/-! ### Failures -/

/-- What is noted if a call cannot be written. -/
def mishap : SinkCall → LogEvent
  | .clear => .screenNotCleared
  | _ => .lineNotWritten

/-- What is noted of a call: nothing, unless a write fails. -/
def noted (dev : Device δ) (t : Terminal δ) (call : SinkCall) : List LogEvent :=
  match t.outputOf dev call with
  | some texts => if (dev.writeAll texts t.device).1 then [] else [mishap call]
  | none => []

/-- What is noted of a series of calls. -/
def notedAll (dev : Device δ) (t : Terminal δ) : List SinkCall → List LogEvent
  | [] => []
  | call :: rest => t.noted dev call ++ notedAll dev (t.receive dev call) rest

end Terminal

/-! ## The input field -/

/-- Shows the prompt and what is typed behind it. It has a painter of its own, but of the theme only
the address, and looks it up whenever it shows something. -/
structure InputField where
  painter : Painter
  handle : ThemeHandle

namespace InputField

/-- The theme that the field finds. -/
def theme (field : InputField) (cells : ThemeCells) : Theme := cells.read field.handle

/-- The colours of the prompt. -/
def promptColors (field : InputField) (cells : ThemeCells) : Color × Color :=
  (LineStyle.prompt.color (field.theme cells), (field.theme cells).background)

/-- The colours of what is typed. -/
def inputColors (field : InputField) (cells : ThemeCells) : Color × Color :=
  ((field.theme cells).foreground, (field.theme cells).background)

/-- What is typed, as it is shown. -/
def highlight (field : InputField) (cells : ThemeCells) (typed : String) : String :=
  if field.painter.isPlain then typed
  else field.painter.paint typed (field.inputColors cells).1 (field.inputColors cells).2

/-- The prompt, as it is shown. -/
def highlightPrompt (field : InputField) (cells : ThemeCells) (prompt : String) : String :=
  if field.painter.isPlain then prompt
  else field.painter.paint prompt (field.promptColors cells).1 (field.promptColors cells).2

end InputField

namespace Terminal

variable {δ : Type}

/-- The input field that belongs to a terminal: it is given the painter and the address. -/
def inputField (t : Terminal δ) : InputField := { painter := t.painter, handle := t.handle }

def promptColors (t : Terminal δ) : Color × Color := t.inputField.promptColors t.cells

def inputColors (t : Terminal δ) : Color × Color := t.inputField.inputColors t.cells

def highlight (t : Terminal δ) (typed : String) : String := t.inputField.highlight t.cells typed

def highlightPrompt (t : Terminal δ) (prompt : String) : String :=
  t.inputField.highlightPrompt t.cells prompt

end Terminal

end ThemedShell
