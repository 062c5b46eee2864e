import Mathlib.Data.List.DropRight
import Mathlib.Data.List.Infix
import ThemedShell.Output.Terminal
import ThemedShell.Proofs.Transcript

/-!
# What a terminal displays

A terminal writes each line in the colours of the theme that was applied last before it, whatever is
applied later. So what it has written since it was last cleared are the lines of a scrollback that
has been told the same, each under the theme of its time, without echoes and prompts; and the prompt
that it gives away is the last one since it was cleared or asked before
(`terminal_displays_scrollback`).
-/
namespace ThemedShell

variable {δ : Type}

/-! ## Calls and their themes -/

namespace SinkCall

def theme? : SinkCall → Option Theme
  | .applyTheme theme => some theme
  | _ => none

/-- The theme that has been applied last, or `first` if none has been. -/
def lastTheme (first : Theme) (calls : List SinkCall) : Theme :=
  (calls.filterMap theme?).getLast?.getD first

/-- Each call with the theme that has been applied last before it. -/
def underThemes (first : Theme) (calls : List SinkCall) : List (SinkCall × Theme) :=
  (calls.inits.zip calls).map fun (before, call) => (call, lastTheme first before)

/-- The line that a call appends, with its theme. -/
def line? : SinkCall × Theme → Option (Line × Theme)
  | (.append line, theme) => some (line, theme)
  | (.clear, _) | (.applyTheme _, _) => none

/-- The lines that have been appended since the surface was last cleared, each with its theme. -/
def shown (first : Theme) (calls : List SinkCall) : List (Line × Theme) :=
  ((underThemes first calls).rtakeWhile (·.1 ≠ .clear)).filterMap line?

theorem lastTheme_cons (first : Theme) (call : SinkCall) (calls : List SinkCall) :
    lastTheme first (call :: calls) = lastTheme (call.theme?.getD first) calls := by
  cases h : call.theme? with
  | none => simp [lastTheme, h]
  | some theme => simp [lastTheme, h, List.getLast?_cons]

@[simp] theorem underThemes_nil (first : Theme) : underThemes first [] = [] := rfl

@[simp] theorem underThemes_cons (first : Theme) (call : SinkCall) (calls : List SinkCall) :
    underThemes first (call :: calls) =
      (call, first) :: underThemes (call.theme?.getD first) calls := by
  simp only [underThemes, List.inits_cons, List.zip_cons_cons, List.map_cons, List.zip_map_left,
    List.map_map]
  refine congrArg₂ _ rfl (List.map_congr_left fun entry _ => ?_)
  simp [lastTheme_cons]

theorem underThemes_append (first : Theme) (calls more : List SinkCall) :
    underThemes first (calls ++ more) =
      underThemes first calls ++ underThemes (lastTheme first calls) more := by
  induction calls generalizing first with
  | nil => rfl
  | cons call calls ih => simp [ih, lastTheme_cons]

theorem lastTheme_map_append (first : Theme) (lines : List Line) :
    lastTheme first (lines.map .append) = first := by
  have none : (lines.map append).filterMap theme? = [] := by
    simp [List.filterMap_eq_nil_iff, theme?]
  rw [lastTheme, none]
  rfl

theorem underThemes_map_append (first : Theme) (lines : List Line) :
    underThemes first (lines.map .append) = lines.map fun line => (.append line, first) := by
  induction lines with
  | nil => rfl
  | cons line lines ih => simp [theme?, ih]

theorem mem_of_mem_underThemes {first theme : Theme} {call : SinkCall} {calls : List SinkCall}
    (h : (call, theme) ∈ underThemes first calls) : call ∈ calls := by
  obtain ⟨entry, hentry, heq⟩ := List.mem_map.1 h
  obtain rfl : entry.2 = call := congrArg Prod.fst heq
  exact (List.of_mem_zip hentry).2

end SinkCall

/-! ## What calls write -/

instance : DecidablePred Line.IsOutput := fun _ => inferInstanceAs (Decidable (_ ∧ _))

/-- A line of output as it is displayed under a theme. -/
def Painter.display (painter : Painter) (entry : Line × Theme) : String :=
  painter.paint entry.1.text (entry.1.style.color entry.2) entry.2.background ++ "\n"

namespace SinkCall

/-- What a call under a theme puts on a display that is cleared by writing `clearing`. -/
def written (painter : Painter) (clearing : List String) : SinkCall × Theme → String
  | (.append line, theme) => if line.IsOutput then painter.display (line, theme) else ""
  | (.clear, _) => String.join clearing
  | (.applyTheme _, _) => ""

variable (painter : Painter) (clearing : List String)

@[simp] theorem written_echo (text : String) (theme : Theme) :
    written painter clearing (.append (.echo text), theme) = "" := rfl

@[simp] theorem written_prompt (text : String) (theme : Theme) :
    written painter clearing (.append (.prompt text), theme) = "" := rfl

theorem written_of_isOutput (theme : Theme) {line : Line} (h : line.IsOutput) :
    written painter clearing (.append line, theme) = painter.display (line, theme) := if_pos h

/-- As long as nothing is cleared, only lines of output are written. -/
theorem join_written :
    ∀ entries : List (SinkCall × Theme), (∀ entry ∈ entries, entry.1 ≠ .clear) →
      String.join (entries.map (written painter clearing)) =
        String.join (((entries.filterMap line?).filter (·.1.IsOutput)).map painter.display)
  | [], _ => rfl
  | (.append line, theme) :: rest, h => by
    have ih := join_written rest fun entry he => h entry (by simp [he])
    by_cases output : line.IsOutput <;> simp [written, line?, output, ih]
  | (.clear, theme) :: rest, h => absurd rfl (h (.clear, theme) (by simp))
  | (.applyTheme theme, before) :: rest, h => by
    have ih := join_written rest fun entry he => h entry (by simp [he])
    simp [written, List.filterMap_cons, line?, ih]

end SinkCall

/-! ## Devices that work -/

/-- Every text that is written stands behind all that has been written before. -/
structure Device.Works (dev : Device δ) (written : δ → String) : Prop where
  write : ∀ s state,
    (dev.write s state).1 = true ∧ written (dev.write s state).2 = written state ++ s
  flush : ∀ state, (dev.flush state).1 = true ∧ written (dev.flush state).2 = written state

theorem Device.works_buffer : Device.buffer.Works id where
  write _ _ := ⟨rfl, rfl⟩
  flush _ := ⟨rfl, rfl⟩

/-- On such a device a series of texts is written to its end. -/
theorem Device.Works.writeAll {dev : Device δ} {written : δ → String} (works : dev.Works written) :
    ∀ (texts : List String) (state : δ), (dev.writeAll texts state).1 = true ∧
      written (dev.writeAll texts state).2 = written state ++ String.join texts
  | [], state => by simpa [Device.writeAll] using works.flush state
  | s :: rest, state => by
    obtain ⟨done, hwritten⟩ := works.write s state
    obtain ⟨succeeds, ih⟩ := works.writeAll rest (dev.write s state).2
    have onward : dev.writeAll (s :: rest) state = dev.writeAll rest (dev.write s state).2 := by
      simp only [Device.writeAll, bind, StateT.bind]
      cases hwrite : dev.write s state with
      | mk ok left =>
        obtain rfl : ok = true := by rw [← done, hwrite]
        rfl
    rw [onward]
    refine ⟨succeeds, ih.trans ?_⟩
    rw [hwritten, String.append_assoc, ← String.join_cons]

theorem Device.Works.send {dev : Device δ} {written : δ → String} (works : dev.Works written)
    (texts : List String) (state : δ) :
    written (dev.send texts state) = written state ++ String.join texts :=
  (works.writeAll texts state).2

/-! ## Terminals -/

namespace Terminal

variable {dev : Device δ} {written : δ → String}

@[simp] theorem theme_receive (t : Terminal δ) (call : SinkCall) :
    (t.receive dev call).theme = call.theme?.getD t.theme := by
  cases call with
  | append line => rfl
  | clear => rfl
  | applyTheme theme => exact t.cells.read_write_self t.handle theme

@[simp] theorem painter_receive (t : Terminal δ) (call : SinkCall) :
    (t.receive dev call).painter = t.painter := rfl

theorem written_receive (works : dev.Works written) (t : Terminal δ) (call : SinkCall) :
    written (t.receive dev call).device =
      written t.device ++ SinkCall.written t.painter dev.clearing (call, t.theme) := by
  cases call with
  | append line =>
    obtain ⟨style, text⟩ := line
    cases style <;>
      simp [receive, outputOf, SinkCall.written, Line.IsOutput, works.send, painted,
        Painter.display]
  | clear => simp [receive, outputOf, SinkCall.written, works.send]
  | applyTheme theme => simp [receive, outputOf, SinkCall.written]

/-- On a device that works there is nothing to note. -/
theorem notedAll_of_works (works : dev.Works written) :
    ∀ (calls : List SinkCall) (t : Terminal δ), t.notedAll dev calls = []
  | [], _ => rfl
  | call :: rest, t => by
    have nothing : t.noted dev call = [] := by
      rw [noted]
      split
      · rw [if_pos (works.writeAll _ _).1]
      · rfl
    rw [notedAll, nothing, notedAll_of_works works rest, List.nil_append]

/-- What is no output never reaches the device. -/
theorem device_receive_of_not_isOutput (t : Terminal δ) {line : Line} (h : ¬line.IsOutput) :
    (t.receive dev (.append line)).device = t.device := by
  obtain ⟨style, text⟩ := line
  cases style <;> first | rfl | exact absurd (by simp [Line.IsOutput]) h

/-- What can happen to a terminal. -/
inductive Step where
  | call (call : SinkCall)
  | takePrompt
deriving DecidableEq, Repr

namespace Step

def call? : Step → Option SinkCall
  | .call told => some told
  | .takePrompt => none

/-- The text of a prompt that is appended. -/
def prompt? : Step → Option String
  | .call (.append line) => if line.style = .prompt then some line.text else none
  | _ => none

def clears (step : Step) : Bool := step = .call .clear

/-- After such a step no prompt is held. -/
def dropsPrompt (step : Step) : Bool := step.clears || step = .takePrompt

theorem ne_clear_of_not_clears {step : Step} (h : step.clears = false) {told : SinkCall}
    (calls : step.call? = some told) : told ≠ .clear := by
  cases step <;> simp_all [clears, call?]

end Step

def step (dev : Device δ) (t : Terminal δ) : Step → Terminal δ
  | .call call => t.receive dev call
  | .takePrompt => t.takePrompt.2

def stepAll (dev : Device δ) (t : Terminal δ) (steps : List Step) : Terminal δ :=
  steps.foldl (step dev) t

@[simp] theorem stepAll_nil (t : Terminal δ) : t.stepAll dev [] = t := rfl

@[simp] theorem stepAll_cons (t : Terminal δ) (s : Step) (steps : List Step) :
    t.stepAll dev (s :: steps) = (t.step dev s).stepAll dev steps := rfl

theorem stepAll_append (t : Terminal δ) (steps more : List Step) :
    t.stepAll dev (steps ++ more) = (t.stepAll dev steps).stepAll dev more := by
  simp only [stepAll, List.foldl_append]

theorem stepAll_map_call (t : Terminal δ) (calls : List SinkCall) :
    t.stepAll dev (calls.map .call) = t.receiveAll dev calls := by
  simp only [stepAll, receiveAll, List.foldl_map]
  rfl

/-- Whatever happens to a terminal, it keeps its painter and its address. -/
theorem inputField_stepAll (t : Terminal δ) (steps : List Step) :
    (t.stepAll dev steps).inputField = t.inputField := by
  induction steps generalizing t with
  | nil => rfl
  | cons s steps ih =>
    rw [stepAll_cons, ih]
    cases s <;> rfl

@[simp] theorem painter_stepAll (t : Terminal δ) (steps : List Step) :
    (t.stepAll dev steps).painter = t.painter :=
  congrArg InputField.painter (inputField_stepAll t steps)

theorem theme_stepAll (t : Terminal δ) (steps : List Step) :
    (t.stepAll dev steps).theme = SinkCall.lastTheme t.theme (steps.filterMap Step.call?) := by
  induction steps generalizing t with
  | nil => rfl
  | cons s steps ih =>
    rw [stepAll_cons, ih]
    cases s with
    | call call => simp [step, Step.call?, SinkCall.lastTheme_cons]
    | takePrompt => rfl

/-- What a terminal writes, call by call. -/
theorem written_stepAll (works : dev.Works written) (t : Terminal δ) (steps : List Step) :
    written (t.stepAll dev steps).device = written t.device ++
      String.join ((SinkCall.underThemes t.theme (steps.filterMap Step.call?)).map
        (SinkCall.written t.painter dev.clearing)) := by
  induction steps generalizing t with
  | nil => simp
  | cons s steps ih =>
    rw [stepAll_cons, ih]
    cases s with
    | call call => simp [step, Step.call?, written_receive works, String.append_assoc]
    | takePrompt => rfl

/-- The prompt that is held is the last one that nothing has dropped. -/
theorem held_stepAll (t : Terminal δ) (none : t.held = none) (steps : List Step) :
    (t.stepAll dev steps).held =
      ((steps.rtakeWhile (!·.dropsPrompt)).filterMap Step.prompt?).getLast? := by
  induction steps using List.reverseRecOn with
  | nil => exact none
  | append_singleton steps s ih =>
    rw [stepAll_append, stepAll_cons, stepAll_nil, List.rtakeWhile_concat]
    cases s with
    | takePrompt => rfl
    | call call =>
      cases call with
      | clear => rfl
      | applyTheme theme =>
        simpa [step, receive, heldAfter, Step.dropsPrompt, Step.clears, Step.prompt?] using ih
      | append line =>
        by_cases prompt : line.style = .prompt <;>
          simp [step, receive, heldAfter, Step.dropsPrompt, Step.clears, Step.prompt?, prompt, ih]

/-! ### Told a series of calls -/

theorem filterMap_call?_map (calls : List SinkCall) :
    (calls.map Step.call).filterMap Step.call? = calls := by
  simp [List.filterMap_map, Function.comp_def, Step.call?]

theorem inputField_receiveAll (t : Terminal δ) (calls : List SinkCall) :
    (t.receiveAll dev calls).inputField = t.inputField := by
  rw [← stepAll_map_call, inputField_stepAll]

theorem theme_receiveAll (t : Terminal δ) (calls : List SinkCall) :
    (t.receiveAll dev calls).theme = SinkCall.lastTheme t.theme calls := by
  rw [← stepAll_map_call, theme_stepAll, filterMap_call?_map]

theorem written_receiveAll (works : dev.Works written) (t : Terminal δ) (calls : List SinkCall) :
    written (t.receiveAll dev calls).device = written t.device ++
      String.join ((SinkCall.underThemes t.theme calls).map
        (SinkCall.written t.painter dev.clearing)) := by
  rw [← stepAll_map_call, written_stepAll works, filterMap_call?_map]

theorem held_receiveAll_prompt (t : Terminal δ) (calls : List SinkCall) (prompt : String) :
    (t.receiveAll dev (calls ++ [.append (.prompt prompt)])).held = some prompt := by
  rw [receiveAll, List.foldl_append]
  rfl

end Terminal

/-! ## Scrollbacks -/

namespace Scrollback

theorem theme_receiveAll (s : Scrollback) (calls : List SinkCall) :
    (s.receiveAll calls).theme = SinkCall.lastTheme s.theme calls := by
  induction calls generalizing s with
  | nil => rfl
  | cons call calls ih =>
    rw [SinkCall.lastTheme_cons, receiveAll, List.foldl_cons]
    refine (ih (s.receive call)).trans ?_
    cases call <;> rfl

/-- As long as nothing is cleared, lines are added in order. -/
theorem lines_receiveAll :
    ∀ (calls : List SinkCall) (first : Theme) (s : Scrollback), SinkCall.clear ∉ calls →
      (s.receiveAll calls).lines =
        s.lines ++ ((SinkCall.underThemes first calls).filterMap SinkCall.line?).map Prod.fst
  | [], _, s, _ => by simp [receiveAll]
  | .append line :: calls, first, s, h => by
    have ih := lines_receiveAll calls first (s.receive (.append line)) (by simpa using h)
    rw [receiveAll, List.foldl_cons]
    refine ih.trans ?_
    simp [receive, SinkCall.line?, SinkCall.theme?]
  | .clear :: _, _, _, h => absurd (by simp) h
  | .applyTheme theme :: calls, first, s, h => by
    have ih := lines_receiveAll calls theme (s.receive (.applyTheme theme)) (by simpa using h)
    rw [receiveAll, List.foldl_cons]
    refine ih.trans ?_
    simp [receive, List.filterMap_cons, SinkCall.line?, SinkCall.theme?]

/-- Nothing is left of what was shown before the surface was cleared. -/
theorem lines_receiveAll_clear (s : Scrollback) (calls : List SinkCall) :
    (s.receiveAll (calls ++ [.clear])).lines = [] := by
  rw [receiveAll_append]
  rfl

end Scrollback

/-! ## Since the last clearing -/

theorem rtakeWhile_append_of_pos {α : Type} {p : α → Bool} (xs : List α) {ys : List α}
    (h : ∀ y ∈ ys, p y = true) : (xs ++ ys).rtakeWhile p = xs.rtakeWhile p ++ ys := by
  rw [List.rtakeWhile, List.reverse_append, List.takeWhile_append_of_pos (by simpa using h),
    List.reverse_append, List.reverse_reverse, List.rtakeWhile]

namespace Terminal.Step

/-- All steps up to the last one that clears. -/
def cleared (steps : List Step) : List Step := steps.rdropWhile (!·.clears)

/-- The steps since then. -/
def recent (steps : List Step) : List Step := steps.rtakeWhile (!·.clears)

theorem cleared_append_recent (steps : List Step) : cleared steps ++ recent steps = steps :=
  List.rdropWhile_append_rtakeWhile

theorem cleared_cases (steps : List Step) :
    cleared steps = [] ∨ ∃ earlier, cleared steps = earlier ++ [.call .clear] := by
  by_cases h : cleared steps = []
  · exact .inl h
  · have kept := List.rdropWhile_last_not (fun step : Step => !step.clears) steps h
    have last : ((cleared steps).getLast h).clears = true := by
      cases hlast : ((cleared steps).getLast h).clears with
      | true => rfl
      | false => exact absurd (congrArg not hlast) kept
    refine .inr ⟨(cleared steps).dropLast, ?_⟩
    rw [← of_decide_eq_true last, List.dropLast_concat_getLast]

theorem clear_not_mem_recent (steps : List Step) :
    SinkCall.clear ∉ (recent steps).filterMap call? := by
  intro hmem
  obtain ⟨step, hstep, calls⟩ := List.mem_filterMap.1 hmem
  have kept : step.clears = false := by simpa using List.mem_rtakeWhile_imp hstep
  exact ne_clear_of_not_clears kept calls rfl

/-- What is shown are the lines of the recent calls. -/
theorem shown_eq (first : Theme) (steps : List Step) :
    SinkCall.shown first (steps.filterMap call?) =
      (SinkCall.underThemes (SinkCall.lastTheme first ((cleared steps).filterMap call?))
        ((recent steps).filterMap call?)).filterMap SinkCall.line? := by
  have before : (SinkCall.underThemes first ((cleared steps).filterMap call?)).rtakeWhile
      (·.1 ≠ .clear) = [] := by
    rcases cleared_cases steps with h | ⟨earlier, h⟩
    · simp [h]
    · rw [h, List.filterMap_append, SinkCall.underThemes_append]
      exact List.rtakeWhile_concat_neg _ _ _ (by simp)
  have kept : ∀ entry ∈ SinkCall.underThemes
      (SinkCall.lastTheme first ((cleared steps).filterMap call?))
      ((recent steps).filterMap call?), decide (entry.1 ≠ .clear) = true := by
    intro entry hentry
    have := SinkCall.mem_of_mem_underThemes hentry
    exact decide_eq_true fun clear => clear_not_mem_recent steps (clear ▸ this)
  conv => lhs; rw [← cleared_append_recent steps]
  rw [SinkCall.shown, List.filterMap_append, SinkCall.underThemes_append,
    rtakeWhile_append_of_pos _ kept, before, List.nil_append]

end Terminal.Step

open Terminal.Step (call? cleared recent)

/-- A scrollback holds the lines that are shown. -/
theorem Scrollback.lines_eq_shown (first : Theme) (steps : List Terminal.Step) :
    (Scrollback.receiveAll {} (steps.filterMap call?)).lines =
      (SinkCall.shown first (steps.filterMap call?)).map Prod.fst := by
  have empty : (Scrollback.receiveAll {} ((cleared steps).filterMap call?)).lines = [] := by
    rcases Terminal.Step.cleared_cases steps with h | ⟨earlier, h⟩
    · rw [h]
      rfl
    · rw [h, List.filterMap_append]
      exact lines_receiveAll_clear {} _
  rw [Terminal.Step.shown_eq]
  conv => lhs; rw [← Terminal.Step.cleared_append_recent steps]
  rw [List.filterMap_append, receiveAll_append,
    lines_receiveAll _ _ _ (Terminal.Step.clear_not_mem_recent steps), empty, List.nil_append]

namespace Terminal

variable {dev : Device δ} {written : δ → String}

/-- Since it was last cleared a terminal has written the lines that are shown. -/
theorem written_eq_shown (works : dev.Works written) (t : Terminal δ) (steps : List Step) :
    written (t.stepAll dev steps).device = written (t.stepAll dev (cleared steps)).device ++
      String.join (((SinkCall.shown t.theme (steps.filterMap call?)).filter (·.1.IsOutput)).map
        t.painter.display) := by
  conv => lhs; rw [← Step.cleared_append_recent steps]
  rw [stepAll_append, written_stepAll works, painter_stepAll, theme_stepAll, SinkCall.join_written,
    ← Step.shown_eq]
  intro entry hentry clear
  exact Step.clear_not_mem_recent steps (clear ▸ SinkCall.mem_of_mem_underThemes hentry)

/-- Up to its last clearing a terminal has written what clears it, if it has been cleared at all. -/
theorem written_cleared (works : dev.Works written) (t : Terminal δ) (steps : List Step) :
    cleared steps = [] ∨ ∃ earlier, cleared steps = earlier ++ [.call .clear] ∧
      written (t.stepAll dev (cleared steps)).device =
        written (t.stepAll dev earlier).device ++ String.join dev.clearing := by
  rcases Step.cleared_cases steps with h | ⟨earlier, h⟩
  · exact .inl h
  · refine .inr ⟨earlier, h, ?_⟩
    rw [h, stepAll_append]
    exact written_receive works _ .clear

end Terminal

/-- **A terminal displays a scrollback.** A terminal and a scrollback are new and are told the same,
while prompts are taken from the terminal at any time. On a device that works, what the terminal has
written since it was last cleared are the lines of output on the scrollback, each painted in the
theme that had been applied last when it came: with a plain painter these are the texts themselves,
and if the library wraps styled texts, each text that is not empty stands between what sets the two
colours and what takes them back. The prompt that can be taken is the last one since the terminal
was cleared or a prompt was taken. -/
theorem terminal_displays_scrollback (dev : Device δ) (written : δ → String)
    (works : dev.Works written) (state : δ) (painter : Painter) (steps : List Terminal.Step) :
    let after := Terminal.stepAll dev { device := state, painter }
    let calls := steps.filterMap call?
    let scrollback := Scrollback.receiveAll {} calls
    let output := (SinkCall.shown {} calls).filter (·.1.IsOutput)
    scrollback.lines = (SinkCall.shown {} calls).map Prod.fst ∧
    (after steps).theme = scrollback.theme ∧
    (cleared steps = [] ∨ ∃ earlier, cleared steps = earlier ++ [.call .clear] ∧
      written (after (cleared steps)).device =
        written (after earlier).device ++ String.join dev.clearing) ∧
    written (after steps).device = written (after (cleared steps)).device ++
      String.join (output.map fun (line, theme) =>
        painter.paint line.text (line.style.color theme) theme.background ++ "\n") ∧
    (painter.isPlain = true → written (after steps).device =
      written (after (cleared steps)).device ++ String.join (output.map (·.1.text ++ "\n"))) ∧
    (∀ opening closing, painter.styling.Wraps opening closing → painter.isPlain = false →
      written (after steps).device = written (after (cleared steps)).device ++
        String.join (output.map fun (line, theme) =>
          (if line.text = "" then ""
            else opening (line.style.color theme).rgb theme.background.rgb ++ line.text ++ closing)
          ++ "\n")) ∧
    (∀ foreground background, painter.paint "" foreground background = "") ∧
    (after steps).takePrompt.1 =
      ((steps.rtakeWhile (!·.dropsPrompt)).filterMap Terminal.Step.prompt?).getLast? := by
  intro after calls scrollback output
  have displayed : written (after steps).device = written (after (cleared steps)).device ++
      String.join (output.map painter.display) := Terminal.written_eq_shown works _ steps
  refine ⟨Scrollback.lines_eq_shown {} steps, ?_, Terminal.written_cleared works _ steps, displayed,
    ?_, ?_, painter.paint_empty, Terminal.held_stepAll _ rfl steps⟩
  · rw [Terminal.theme_stepAll, Scrollback.theme_receiveAll]
    rfl
  · intro plain
    rw [displayed]
    refine congrArg (_ ++ String.join ·) (List.map_congr_left fun entry _ => ?_)
    rw [Painter.display, Painter.paint_of_isPlain plain]
  · intro opening closing wraps coloured
    rw [displayed]
    refine congrArg (_ ++ String.join ·) (List.map_congr_left fun entry _ => ?_)
    by_cases empty : entry.1.text = "" <;>
      simp [Painter.display, Painter.paint_eq wraps, coloured, empty]

/-- Lines under two themes, an echo, two prompts and a clearing between them. -/
theorem displayed_since_clearing :
    let steps : List Terminal.Step :=
      [.call (.append (.plain "gone")), .call (.append (.prompt "/> ")), .call .clear,
        .call (.append (.echo "> ls")), .call (.append (.plain "old")),
        .call (.applyTheme { foreground := .red }), .call (.append (.plain "new")),
        .takePrompt, .call (.append (.prompt "/srv> "))]
    let painter : Painter := { support := .trueColor, styling := .usual }
    let after := Terminal.stepAll Device.buffer { device := "", painter }
    Device.buffer.Works id ∧ painter.styling.Wraps Styling.setColors Styling.resetSequence ∧
      (after steps).takePrompt.1 = some "/srv> " ∧
      (after steps).device = (after (cleared steps)).device ++
        ("\x1b[38;2;50;205;50m\x1b[48;2;0;0;0mold\x1b[0m\n" ++
          "\x1b[38;2;255;0;0m\x1b[48;2;0;0;0mnew\x1b[0m\n") := by
  intro steps painter after
  obtain ⟨-, -, -, -, -, painted, -, taken⟩ := terminal_displays_scrollback Device.buffer id
    Device.works_buffer "" painter steps
  refine ⟨Device.works_buffer, Styling.wraps_usual, taken.trans (by decide +kernel), ?_⟩
  exact (painted _ _ Styling.wraps_usual rfl).trans (congrArg _ (by decide +kernel))

end ThemedShell
