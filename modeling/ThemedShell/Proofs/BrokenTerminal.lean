import ThemedShell.Proofs.Turn
import ThemedShell.Shell

/-!
# Broken terminals

A device may fail at any write and at any flush. Nobody learns of it but the terminal, which notes it
for the log and holds its prompt and its theme all the same. So two shells that differ in their
devices only (`Shell.Twins`) cannot be told apart by what is done with them, except by looking at the
devices: each use is noticed alike in both and leaves them twins (`Shell.Twins.use`), and so is a
whole series of uses (`failures_go_unnoticed`).
-/
namespace ThemedShell

variable {σ δ ε : Type}

/-! ## The look of a terminal -/

/-- What is seen of a terminal with an input field beside it: the theme, and the look of what is typed
and of a prompt. -/
structure Appearance where
  theme : Theme
  highlight : String → String
  highlightPrompt : String → String

/-- How a terminal looks with the field beside it. The field has its theme from the cells. -/
def InputField.appearance (field : InputField) (t : Terminal δ) : Appearance :=
  { theme := t.theme
    highlight := field.highlight t.cells
    highlightPrompt := field.highlightPrompt t.cells }

namespace Terminal

/-- How a terminal looks that is told a series of calls: at first, and after each of them. -/
def appearances (dev : Device δ) (field : InputField) (t : Terminal δ) :
    List SinkCall → List Appearance
  | [] => [field.appearance t]
  | call :: rest => field.appearance t :: appearances dev field (t.receive dev call) rest

/-- The same terminal on another device. -/
def onDevice (t : Terminal δ) (state : ε) : Terminal ε :=
  { device := state, painter := t.painter, handle := t.handle, cells := t.cells, held := t.held }

/-- Terminals that differ in their devices only. -/
structure Twins (t : Terminal δ) (t' : Terminal ε) : Prop where
  painter : t.painter = t'.painter
  handle : t.handle = t'.handle
  cells : t.cells = t'.cells
  held : t.held = t'.held

theorem twins_onDevice (t : Terminal δ) (state : ε) : t.Twins (t.onDevice state) :=
  ⟨rfl, rfl, rfl, rfl⟩

namespace Twins

variable {dev : Device δ} {dev' : Device ε} {t : Terminal δ} {t' : Terminal ε}

theorem theme (h : t.Twins t') : t.theme = t'.theme := by
  rw [Terminal.theme, h.cells, h.handle, Terminal.theme]

/-- Whether a device fails has no effect on the prompt and the cells. -/
theorem receive (h : t.Twins t') (call : SinkCall) :
    (t.receive dev call).Twins (t'.receive dev' call) := by
  refine ⟨h.painter, h.handle, ?_, ?_⟩ <;>
    cases call <;> simp only [Terminal.receive, cellsAfter, heldAfter, h.cells, h.handle, h.held]

theorem receiveAll (h : t.Twins t') (calls : List SinkCall) :
    (t.receiveAll dev calls).Twins (t'.receiveAll dev' calls) := by
  induction calls generalizing t t' with
  | nil => exact h
  | cons call calls ih => exact ih (h.receive call)

theorem takePrompt (h : t.Twins t') :
    t.takePrompt.1 = t'.takePrompt.1 ∧ t.takePrompt.2.Twins t'.takePrompt.2 :=
  ⟨h.held, h.painter, h.handle, h.cells, rfl⟩

theorem appearance (h : t.Twins t') (field : InputField) :
    field.appearance t = field.appearance t' := by
  rw [InputField.appearance, InputField.appearance, h.theme, h.cells]

theorem appearances (h : t.Twins t') (field : InputField) (calls : List SinkCall) :
    t.appearances dev field calls = t'.appearances dev' field calls := by
  induction calls generalizing t t' with
  | nil => rw [Terminal.appearances, h.appearance, Terminal.appearances]
  | cons call calls ih =>
    rw [Terminal.appearances, h.appearance, ih (h.receive call), Terminal.appearances]

end Twins

end Terminal

/-! ## Uses of a shell -/

/-- What is done with a shell: a line is run, or the prompt is taken from its terminal. -/
inductive Use where
  | line (text : String)
  | takePrompt
deriving DecidableEq, Repr

/-- What can be noticed of a use without a look at the device. -/
inductive Notice (σ : Type) where
  /-- The outcome of a line, the session and the machine after it, what it has asked of the machine,
  and how the terminal looks in the course of it. -/
  | line (outcome : Outcome) (session : Session) (machine : σ) (asked : List HostCall)
    (appearances : List Appearance)
  /-- The prompt, if there has been one, and how the terminal looks without it. -/
  | prompt (taken : Option String) (appearance : Appearance)

namespace Shell

/-- What is noticed of a use, and the shell after it. -/
def use (around : Surroundings σ δ) (shell : Shell σ δ) : Use → Notice σ × Shell σ δ
  | .line text =>
    let start : Run σ := { session := shell.session, host := shell.machine }
    let told := (Interpreter.execute around.host text start).2.calls
    let left := shell.submit around text
    (.line left.1 left.2.session left.2.machine (Interpreter.asked around.host text start)
      (shell.terminal.appearances around.device shell.field told), left.2)
  | .takePrompt =>
    let taken := shell.terminal.takePrompt
    (.prompt taken.1 (shell.field.appearance taken.2), { shell with terminal := taken.2 })

/-- What is noticed of a series of uses. -/
def notices (around : Surroundings σ δ) (shell : Shell σ δ) : List Use → List (Notice σ)
  | [] => []
  | use :: rest => (shell.use around use).1 :: notices around (shell.use around use).2 rest

/-- The same shell with another device. -/
def onDevice (shell : Shell σ δ) (state : ε) : Shell σ ε :=
  { session := shell.session
    machine := shell.machine
    terminal := shell.terminal.onDevice state
    field := shell.field
    offered := shell.offered
    submitted := shell.submitted
    log := shell.log }

/-- Shells that differ only in their devices, and in what has been noted of these. -/
structure Twins (shell : Shell σ δ) (shell' : Shell σ ε) : Prop where
  session : shell.session = shell'.session
  machine : shell.machine = shell'.machine
  terminal : shell.terminal.Twins shell'.terminal
  field : shell.field = shell'.field

namespace Twins

variable {around : Surroundings σ δ} {around' : Surroundings σ ε} {shell : Shell σ δ}
  {shell' : Shell σ ε}

/-- A line comes to the same in both shells. -/
theorem submit (h : shell.Twins shell') (host : around.host = around'.host) (text : String) :
    (shell.submit around text).1 = (shell'.submit around' text).1 ∧
      (shell.submit around text).2.Twins (shell'.submit around' text).2 := by
  rw [Shell.submit, Shell.submit, host, h.session, h.machine]
  generalize Interpreter.execute around'.host text
    { session := shell'.session, host := shell'.machine } = taken
  obtain ⟨outcome, run⟩ := taken
  exact ⟨rfl, rfl, rfl, h.terminal.receiveAll run.calls, h.field⟩

/-- A use is noticed alike in both shells. -/
theorem use (h : shell.Twins shell') (host : around.host = around'.host) (use : Use) :
    (shell.use around use).1 = (shell'.use around' use).1 ∧
      (shell.use around use).2.Twins (shell'.use around' use).2 := by
  cases use with
  | line text =>
    obtain ⟨outcome, left⟩ := h.submit host text
    simp only [Shell.use, outcome, left.session, left.machine, host, h.session, h.machine, h.field]
    exact ⟨by rw [h.terminal.appearances], left⟩
  | takePrompt =>
    obtain ⟨taken, terminal⟩ := h.terminal.takePrompt
    refine ⟨?_, h.session, h.machine, terminal, h.field⟩
    simp only [Shell.use, taken, terminal.appearance, h.field]

theorem notices (host : around.host = around'.host) (uses : List Use) (h : shell.Twins shell') :
    shell.notices around uses = shell'.notices around' uses := by
  induction uses generalizing shell shell' with
  | nil => rfl
  | cons use rest ih =>
    obtain ⟨same, left⟩ := h.use host use
    rw [Shell.notices, same, ih left, Shell.notices]

end Twins

theorem twins_onDevice (shell : Shell σ δ) (state : ε) : shell.Twins (shell.onDevice state) :=
  ⟨rfl, rfl, shell.terminal.twins_onDevice state, rfl⟩

end Shell

/-- The same surroundings with another device. -/
def Surroundings.onDevice (around : Surroundings σ δ) (dev : Device ε) : Surroundings σ ε :=
  { host := around.host
    device := dev
    quiet := around.quiet
    showsPrompt := around.showsPrompt }

/-- **Failures of the device go unnoticed.** Whatever lines are run and whenever prompts are taken,
it makes no difference on which device the terminal writes. One of them may work, and the other may
fail at any of its writes and flushes: each line has the same outcome, leaves the same session and
the same machine and has asked it the same with the same answers; after each call that it tells the
terminal, the theme is the same and the input field shows the same for any text; and each prompt that
is taken is the same. -/
theorem failures_go_unnoticed (around : Surroundings σ δ) (dev : Device ε) (shell : Shell σ δ)
    (state : ε) (uses : List Use) :
    (shell.onDevice state).notices (around.onDevice dev) uses = shell.notices around uses := by
  have twins : shell.Twins (shell.onDevice state) := shell.twins_onDevice state
  have host : around.host = (around.onDevice dev).host := rfl
  exact (twins.notices host uses).symm

end ThemedShell
