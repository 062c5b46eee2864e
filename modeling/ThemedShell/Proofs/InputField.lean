import ThemedShell.Proofs.ShellLoop

/-!
# The input field

The input field has no theme of its own but the address of a cell, which it has from its terminal. A
terminal keeps its address whatever happens to it, writes to the cell that is there when a theme is
applied, and never to another one (`read_cells_stepAll`). So the field finds what the terminal
paints with, and shows what is typed as the terminal shows an ordinary line; with a plain painter its
short cut leaves out nothing (`highlight_eq`). The session has a theme as well, and tells the terminal
of each change; so a terminal that has been told of the first theme keeps up (`Turn.exists_told`), and
with it the field (`input_field_shares_theme`).
-/
namespace ThemedShell

variable {σ δ : Type}

/-! ## The field -/

namespace InputField

variable (field : InputField) (cells : ThemeCells)

/-- The short cut of a plain painter is what the painter does. -/
theorem highlight_eq (typed : String) :
    field.highlight cells typed =
      field.painter.paint typed (field.theme cells).foreground (field.theme cells).background := by
  rw [highlight]
  split
  · next plain => rw [Painter.paint_of_isPlain plain]
  · rfl

theorem highlightPrompt_eq (prompt : String) :
    field.highlightPrompt cells prompt =
      field.painter.paint prompt (LineStyle.prompt.color (field.theme cells))
        (field.theme cells).background := by
  rw [highlightPrompt]
  split
  · next plain => rw [Painter.paint_of_isPlain plain]
  · rfl

end InputField

/-! ## The cell -/

namespace Terminal

variable {dev : Device δ}

/-- The field of a terminal finds the theme that the terminal paints with. -/
@[simp] theorem theme_inputField (t : Terminal δ) : t.inputField.theme t.cells = t.theme := rfl

@[simp] theorem handle_step (t : Terminal δ) (s : Step) : (t.step dev s).handle = t.handle := by
  cases s <;> rfl

/-- Only an applied theme is written to a cell. -/
theorem cells_step_of_ne {t : Terminal δ} {s : Step}
    (other : ∀ theme, s ≠ .call (.applyTheme theme)) : (t.step dev s).cells = t.cells := by
  cases s with
  | takePrompt => rfl
  | call call =>
    cases call with
    | applyTheme theme => exact absurd rfl (other theme)
    | append line => rfl
    | clear => rfl

/-- An applied theme is written to the cell at the address of the terminal. -/
theorem read_cells_applyTheme (t : Terminal δ) (theme : Theme) (handle : ThemeHandle) :
    (t.step dev (.call (.applyTheme theme))).cells.read handle =
      if handle = t.handle then theme else t.cells.read handle := by
  split
  · next here =>
    rw [here]
    exact t.cells.read_write_self t.handle theme
  · next elsewhere => exact t.cells.read_write_of_ne elsewhere theme

/-- Cells at other addresses are left alone. -/
theorem read_cells_step_of_ne {t : Terminal δ} {handle : ThemeHandle} (elsewhere : handle ≠ t.handle)
    (s : Step) : (t.step dev s).cells.read handle = t.cells.read handle := by
  by_cases applies : ∃ theme, s = .call (.applyTheme theme)
  · obtain ⟨theme, rfl⟩ := applies
    rw [read_cells_applyTheme, if_neg elsewhere]
  · rw [cells_step_of_ne fun theme h => applies ⟨theme, h⟩]

/-- **What the cells hold after any steps**: the last theme that has been applied is in the cell of the
terminal, and the others are as they were. -/
theorem read_cells_stepAll (t : Terminal δ) (steps : List Step) (handle : ThemeHandle) :
    (t.stepAll dev steps).cells.read handle =
      if handle = t.handle then SinkCall.lastTheme t.theme (steps.filterMap Step.call?)
      else t.cells.read handle := by
  split
  · next here =>
    have kept : (t.stepAll dev steps).handle = t.handle :=
      congrArg InputField.handle (inputField_stepAll t steps)
    have last : (t.stepAll dev steps).theme = _ := theme_stepAll t steps
    rw [here, ← last, theme, kept]
  · next elsewhere =>
    induction steps generalizing t with
    | nil => rfl
    | cons s steps ih =>
      rw [stepAll_cons, ih (t.step dev s) (by rwa [handle_step]), read_cells_step_of_ne elsewhere]

/-- An ordinary line is sent as the field of the terminal shows it. -/
theorem receive_plain (t : Terminal δ) (text : String) :
    t.receive dev (.append (.plain text)) =
      { t with device := dev.send [t.inputField.highlight t.cells text, "\n"] t.device } := by
  rw [InputField.highlight_eq, theme_inputField]
  rfl

end Terminal

/-! ## Runs -/

theorem SinkCall.lastTheme_append (first : Theme) (calls more : List SinkCall) :
    lastTheme first (calls ++ more) = lastTheme (lastTheme first calls) more := by
  simp only [lastTheme, List.filterMap_append, List.getLast?_append, Option.getD_or]

/-- Whatever turns are taken, the session ends with the theme that they have applied last. -/
theorem Turn.exists_told (host : Host σ) (turns : List (Turn σ)) (first : Run σ) :
    ∃ told, (takeAll host turns first).2.calls = first.calls ++ told ∧
      (takeAll host turns first).2.session.theme =
        SinkCall.lastTheme first.session.theme told := by
  refine takeAll_invariant host (I := fun run => ∃ told, run.calls = first.calls ++ told ∧
    run.session.theme = SinkCall.lastTheme first.session.theme told) ?_ turns first
    ⟨[], by simp, rfl⟩
  rintro turn run ⟨told, hcalls, htheme⟩
  have theme := Interpreter.theme_execute host turn.line (turn.start run).fresh rfl
  rw [take, Interpreter.execute_fresh]
  generalize Interpreter.execute host turn.line (turn.start run).fresh = left at *
  refine ⟨told ++ left.2.calls, ?_, ?_⟩
  · rw [← List.append_assoc, ← hcalls]
    rfl
  · rw [Simulation.session_along, theme, SinkCall.lastTheme_append, ← htheme]
    rfl

/-- The shell tells its terminal of the first theme, and the terminal keeps up; the input field stays
the one that was made for the terminal. -/
theorem Shell.theme_run (around : Surroundings σ δ) (session : Session) (machine : σ) (state : δ)
    (painter : Painter) (user : String) (readings : List Reading) :
    let final := (new session machine state painter).run around user readings
    final.field = final.terminal.inputField ∧
      final.field.theme final.terminal.cells = final.session.theme := by
  intro final
  have greeted := (at_new session machine state painter).greet around user
  obtain ⟨_, _, -, looped⟩ := greeted.reached.loop around readings
  have whole := greeted.trans looped
  have same : final.field = final.terminal.inputField := whole.field.trans whole.inputField.symm
  refine ⟨same, ?_⟩
  rw [same, Terminal.theme_inputField]
  exact whole.reached.theme.trans (congrArg Session.theme whole.reached.session).symm

/-- **The input field shares the theme of its terminal.** Let an input field be made for a terminal,
and let the terminal then be told anything, while prompts are taken from it. The terminal keeps its
painter and its address; in the cell there is the theme that has been applied last, and all other
cells are as they were. So an ordinary line is sent to the device as the field shows its text, with
the end of a line, and the field shows a prompt in the colour of prompts on the same background.
Nothing but an applied theme is ever written to a cell, and it is noticed by the fields that have the
address of the terminal, and by no others. If the terminal is told of the theme of a session and then
of all that turns tell the surface, the field has the colours of the session; and it has them in
every shell, where the field is never replaced. -/
theorem input_field_shares_theme (dev : Device δ) (t : Terminal δ) :
    let field := t.inputField
    (∀ steps : List Terminal.Step,
      let now := t.stepAll dev steps
      let theme := SinkCall.lastTheme t.theme (steps.filterMap Terminal.Step.call?)
      now.inputField = field ∧
      (∀ handle, now.cells.read handle =
        if handle = t.handle then theme else t.cells.read handle) ∧
      (∀ text, now.receive dev (.append (.plain text)) =
        { now with device := dev.send [field.highlight now.cells text, "\n"] now.device }) ∧
      (∀ written, dev.Works written → ∀ text,
        written (now.receive dev (.append (.plain text))).device =
          written now.device ++ (field.highlight now.cells text ++ "\n")) ∧
      ∀ text,
        field.highlight now.cells text =
          t.painter.paint text theme.foreground theme.background ∧
        field.highlightPrompt now.cells text =
          t.painter.paint text (LineStyle.prompt.color theme) theme.background) ∧
    (∀ (now : Terminal δ) (step : Terminal.Step),
      (now.step dev step).handle = now.handle ∧
      ((∀ theme, step ≠ .call (.applyTheme theme)) → (now.step dev step).cells = now.cells) ∧
      ∀ theme, step = .call (.applyTheme theme) → ∀ other : InputField,
        other.theme (now.step dev step).cells =
          if other.handle = now.handle then theme else other.theme now.cells) ∧
    (∀ (host : Host σ) (turns : List (Turn σ)) (first : Run σ) (steps : List Terminal.Step),
      let after := (Turn.takeAll host turns first).2
      let now := (t.receive dev (.applyTheme first.session.theme)).stepAll dev steps
      after.calls = first.calls ++ steps.filterMap Terminal.Step.call? →
      field.inputColors now.cells =
        (after.session.theme.foreground, after.session.theme.background) ∧
      field.promptColors now.cells =
        (LineStyle.prompt.color after.session.theme, after.session.theme.background)) ∧
    ∀ (around : Surroundings σ δ) (session : Session) (machine : σ) (state : δ)
      (painter : Painter) (user : String) (readings : List Reading),
      let final := (Shell.new session machine state painter).run around user readings
      final.field = final.terminal.inputField ∧
      final.field.inputColors final.terminal.cells =
        (final.session.theme.foreground, final.session.theme.background) ∧
      final.field.promptColors final.terminal.cells =
        (LineStyle.prompt.color final.session.theme, final.session.theme.background) := by
  intro field
  refine ⟨fun steps => ?_, fun now step => ⟨now.handle_step step, Terminal.cells_step_of_ne, ?_⟩,
    fun host turns first steps => ?_,
    fun around session machine state painter user readings => ?_⟩
  · intro now theme
    have same : now.inputField = field := Terminal.inputField_stepAll t steps
    have found : field.theme now.cells = theme := by
      rw [← same, Terminal.theme_inputField]
      exact Terminal.theme_stepAll t steps
    have sent : ∀ text, now.receive dev (.append (.plain text)) = _ := now.receive_plain
    rw [same] at sent
    refine ⟨same, t.read_cells_stepAll steps, sent, fun written works text => ?_,
      fun text => ⟨?_, ?_⟩⟩
    · rw [sent, works.send]
      simp [String.join_cons]
    · rw [InputField.highlight_eq, found]
      rfl
    · rw [InputField.highlightPrompt_eq, found]
      rfl
  · rintro theme rfl other
    exact now.read_cells_applyTheme theme other.handle
  · intro after now hcalls
    obtain ⟨told, hcalls', htheme⟩ := Turn.exists_told host turns first
    obtain rfl : steps.filterMap Terminal.Step.call? = told :=
      List.append_cancel_left (hcalls.symm.trans hcalls')
    have same : now.inputField = field := Terminal.inputField_stepAll _ steps
    have shared : field.theme now.cells = after.session.theme := by
      rw [← same, Terminal.theme_inputField, Terminal.theme_stepAll, Terminal.theme_receive]
      exact htheme.symm
    exact ⟨by rw [InputField.inputColors, shared], by rw [InputField.promptColors, shared]⟩
  · intro final
    obtain ⟨same, shared⟩ := Shell.theme_run around session machine state painter user readings
    exact ⟨same, by rw [InputField.inputColors, shared], by rw [InputField.promptColors, shared]⟩

/-- A theme that is applied while a prompt is held, a field with another address, and a run with a
colour that is not found. -/
theorem typed_in_red :
    let painter : Painter := { support := .trueColor, styling := .usual }
    let t : Terminal String := { device := "", painter, handle := { address := 3 } }
    let field := t.inputField
    let stranger : InputField := { painter, handle := { address := 4 } }
    let steps : List Terminal.Step :=
      [.call (.append (.prompt "/> ")), .call (.applyTheme { foreground := .red }), .takePrompt]
    let now := t.stepAll .buffer steps
    let turns : List (Turn Unit) := [{ line := "bgcolor Red" }, { line := "fgcolor mauve" }]
    let told : List Terminal.Step :=
      .takePrompt :: (Turn.takeAll .bare turns .bare).2.calls.map .call
    let later := (t.receive .buffer (.applyTheme Run.bare.session.theme)).stepAll .buffer told
    Device.buffer.Works id ∧
      (now.receive .buffer (.append (.plain "ls"))).device =
        "\x1b[38;2;255;0;0m\x1b[48;2;0;0;0mls\x1b[0m\n" ∧
      field.highlightPrompt now.cells "/> " =
        "\x1b[38;2;211;211;211m\x1b[48;2;0;0;0m/> \x1b[0m" ∧
      (now.step .buffer .takePrompt).cells = now.cells ∧
      field.theme (now.step .buffer (.call (.applyTheme {}))).cells = {} ∧
      stranger.theme (now.step .buffer (.call (.applyTheme {}))).cells = stranger.theme now.cells ∧
      (Turn.takeAll .bare turns .bare).2.calls =
        Run.bare.calls ++ told.filterMap Terminal.Step.call? ∧
      field.inputColors later.cells =
        ((Turn.takeAll .bare turns .bare).2.session.theme.foreground,
          (Turn.takeAll .bare turns .bare).2.session.theme.background) := by
  intro painter t field stranger steps now turns told later
  obtain ⟨anytime, changes, along, -⟩ := @input_field_shares_theme Unit String .buffer t
  obtain ⟨-, -, -, written, shown⟩ := anytime steps
  have applied := (changes now (.call (.applyTheme {}))).2.2 {} rfl
  have heard : (Turn.takeAll .bare turns .bare).2.calls =
      Run.bare.calls ++ told.filterMap Terminal.Step.call? := by
    rw [List.filterMap_cons_none rfl, Terminal.filterMap_call?_map,
      show Run.bare.calls = [] from rfl, List.nil_append]
  refine ⟨Device.works_buffer, ?_, ?_, (changes now .takePrompt).2.1 (by simp),
    (applied field).trans (if_pos rfl), (applied stranger).trans (if_neg (by decide)), heard,
    (along Host.bare turns .bare told heard).1⟩
  · refine (written id Device.works_buffer "ls").trans ?_
    rw [(shown "ls").1]
    decide +kernel
  · rw [(shown "/> ").2]
    decide +kernel

end ThemedShell
