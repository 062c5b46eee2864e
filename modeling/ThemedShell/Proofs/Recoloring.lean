import ThemedShell.Proofs.Display

/-!
# Recolouring

A line recolours a layer if its verb is that of the layer and its argument names a colour of the
palette; no other line touches the theme. The surface is told of the new theme once and before the
change is confirmed. So a scrollback that starts with the theme of the session has it after every
turn, and each layer has the colour of the last line that recoloured it (`last_color_stays`).
-/
namespace ThemedShell

variable {σ : Type}

/-! ## Lines that recolour -/

namespace Submission

/-- The colour that a line gives to a layer. -/
def colorFor? (layer : Layer) (line : String) : Option Color :=
  if (parse line).verb = (Builtin.color layer).verb then Color.ofName? (parse line).argument
  else none

theorem colorFor?_eq_some {layer : Layer} {line : String} {color : Color} :
    colorFor? layer line = some color ↔
      (parse line).verb = (Builtin.color layer).verb ∧
        Color.parse (parse line).argument = .ok color := by
  have parsed : Color.ofName? (parse line).argument = some color ↔
      Color.parse (parse line).argument = .ok color := by
    unfold Color.parse
    cases Color.ofName? (parse line).argument <;> simp
  simp [colorFor?, parsed]

/-- A line recolours one layer at most. -/
theorem colorFor?_of_ne {layer other : Layer} {line : String} {color : Color}
    (h : colorFor? layer line = some color) (ne : layer ≠ other) : colorFor? other line = none := by
  rw [Option.eq_none_iff_forall_ne_some]
  intro color' h'
  have same : Builtin.color layer = Builtin.color other :=
    Builtin.verb_injective ((colorFor?_eq_some.1 h).1.symm.trans (colorFor?_eq_some.1 h').1)
  exact ne (Builtin.color.inj same)

end Submission

namespace Interpreter

open Submission (colorFor? colorFor?_eq_some)

/-- What confirms that a layer has a new colour. -/
def confirmation (layer : Layer) (color : Color) : SinkCall :=
  .append (.plain (Command.layerName layer ++ " color changed to: " ++ color.name))

variable {host : Host σ} {line : String} {run : Run σ}

/-- A line that recolours a layer does this, notes it, and does nothing else. -/
theorem execute_of_recolors {layer : Layer} {color : Color}
    (h : colorFor? layer line = some color) :
    let session := { run.session with theme := run.session.theme.setLayer layer color }
    execute host line run =
      (.proceed, ({ run with session }.noted
        [route (Text.trim line), .themeChanged layer color]).told
          [echoed line, .applyTheme session.theme, confirmation layer color, prompted session]) := by
  obtain ⟨verb, known⟩ := colorFor?_eq_some.1 h
  have nonblank : Text.trim line ≠ "" := fun blank =>
    (Builtin.color layer).verb_ne_empty (verb.symm.trans (Submission.verb_of_blank blank))
  have performed : ∀ run : Run σ, (Request.ofLine (Text.trim line)).perform host run =
      (Command.setColor layer (Submission.parse line).argument).perform run := by
    rw [Request.verb_eq_iff.1 verb]
    exact fun _ => rfl
  rw [execute_eq, if_neg nonblank, performed, Command.perform_setColor, known]
  simp [finish, opened, Run.told, Run.noted, confirmation]

/-- The calls leave the theme alone. -/
def Untinted (calls : List SinkCall) : Prop := ∀ theme, SinkCall.applyTheme theme ∉ calls

/-- What a request that does not recolour tells the surface, and what it leaves of the theme. -/
theorem untinted_of_effect {request : Request} {left : Except CommandError Outcome × Run σ}
    (effect : Request.Effect host run request left.1 left.2)
    (other : ∀ layer argument color, request = .builtin (.color layer) argument →
      Color.parse argument ≠ .ok color) :
    ∃ told, (finish left).2.calls = run.calls ++ told ∧ Untinted told ∧
      (finish left).2.session.theme = run.session.theme := by
  obtain ⟨result, left⟩ := left
  cases effect with
  | failed e s ordinary =>
    exact ⟨[.append (.error e.message), prompted run.session], by simp [finish],
      by simp [Untinted, prompted], rfl⟩
  | wrote lines s ordinary output =>
    exact ⟨lines.map .append ++ [prompted run.session], by simp [finish],
      by simp [Untinted, prompted], rfl⟩
  | moved target named resolved found =>
    exact ⟨_, (List.append_assoc _ _ _), by simp [Untinted, prompted], rfl⟩
  | themed layer color known => exact absurd known (other layer _ color rfl)
  | cleared argument =>
    exact ⟨[.clear, prompted run.session], by simp [finish], by simp [Untinted, prompted], rfl⟩
  | ended argument => exact ⟨[], by simp [finish], by simp [Untinted], rfl⟩

/-- A line that recolours nothing leaves the theme alone, and so does what it tells. -/
theorem execute_of_not_recolors (host : Host σ) (run : Run σ)
    (h : ∀ layer, colorFor? layer line = none) :
    ∃ told, (execute host line run).2.calls = run.calls ++ told ∧ Untinted told ∧
      (execute host line run).2.session.theme = run.session.theme := by
  rw [execute_eq]
  split
  · exact ⟨[echoed line, prompted run.session], rfl, by simp [Untinted, echoed, prompted], rfl⟩
  · obtain ⟨told, hcalls, untinted, theme⟩ := untinted_of_effect
      (Request.perform_effect host (Request.ofLine (Text.trim line)) (opened line run))
      fun layer argument color request known => by
        obtain ⟨verb, rfl⟩ := Request.verb_of_builtin request
        exact absurd (colorFor?_eq_some.2 ⟨verb, known⟩) (by simp [h layer])
    refine ⟨echoed line :: told, by simpa using hcalls, fun theme hmem => ?_, theme⟩
    rcases List.mem_cons.1 hmem with first | rest
    · simp [echoed] at first
    · exact untinted theme rest

/-- Either a line recolours a layer, or it recolours none. -/
theorem recolors_or_not (line : String) :
    (∃ layer color, colorFor? layer line = some color) ∨ ∀ layer, colorFor? layer line = none := by
  by_cases h : ∃ layer color, colorFor? layer line = some color
  · exact .inl h
  · exact .inr fun layer => Option.eq_none_iff_forall_ne_some.2 fun color hc => h ⟨layer, color, hc⟩

/-- After a turn each layer has the colour that the line gives it, or else the one it had. -/
theorem layer_execute (host : Host σ) (line : String) (run : Run σ) (layer : Layer) :
    (execute host line run).2.session.theme.layer layer =
      (colorFor? layer line).getD (run.session.theme.layer layer) := by
  rcases recolors_or_not line with ⟨recolored, color, h⟩ | h
  · rw [execute_of_recolors h]
    by_cases same : recolored = layer
    · subst same
      simp [h]
    · simp [Submission.colorFor?_of_ne h same, Theme.layer_setLayer_of_ne _ same]
  · obtain ⟨told, -, -, theme⟩ := execute_of_not_recolors host run h
    simp [theme, h]

end Interpreter

/-! ## Scrollbacks keep up -/

namespace Scrollback

theorem theme_receiveAll_of_untinted {calls : List SinkCall} (s : Scrollback)
    (h : Interpreter.Untinted calls) : (s.receiveAll calls).theme = s.theme := by
  have none : calls.filterMap SinkCall.theme? = [] := by
    refine List.filterMap_eq_nil_iff.2 fun call hcall => ?_
    cases call with
    | append line => rfl
    | clear => rfl
    | applyTheme theme => exact absurd hcall (h theme)
  rw [theme_receiveAll, SinkCall.lastTheme, none]
  rfl

/-- A turn keeps the theme of a scrollback that listens equal to that of the session. -/
theorem theme_receiveAll_execute (host : Host σ) (line : String) (run : Run σ)
    (shown : Scrollback) (h : (shown.receiveAll run.calls).theme = run.session.theme) :
    (shown.receiveAll (Interpreter.execute host line run).2.calls).theme =
      (Interpreter.execute host line run).2.session.theme := by
  rcases Interpreter.recolors_or_not line with ⟨layer, color, recolors⟩ | other
  · rw [Interpreter.execute_of_recolors recolors, Run.calls_told, Run.calls_noted,
      receiveAll_append]
    rfl
  · obtain ⟨told, hcalls, untinted, theme⟩ :=
      Interpreter.execute_of_not_recolors host run other
    rw [hcalls, receiveAll_append, theme_receiveAll_of_untinted _ untinted, theme, h]

end Scrollback

/-! ## Series of turns -/

namespace Turn

/-- After a series of turns each layer has the colour that the last line has given it. -/
theorem layer_takeAll (host : Host σ) (layer : Layer) :
    ∀ (turns : List (Turn σ)) (run : Run σ),
      (takeAll host turns run).2.session.theme.layer layer =
        (turns.filterMap fun turn => Submission.colorFor? layer turn.line).getLast?.getD
          (run.session.theme.layer layer)
  | [], _ => rfl
  | turn :: turns, run => by
    have first : (take host turn run).2.session.theme.layer layer =
        (Submission.colorFor? layer turn.line).getD (run.session.theme.layer layer) := by
      rw [take, Interpreter.layer_execute, start]
    rw [takeAll, layer_takeAll host layer turns, first, List.filterMap_cons]
    cases Submission.colorFor? layer turn.line with
    | none => rfl
    | some color => simp [List.getLast?_cons]

theorem theme_receiveAll_take (host : Host σ) (shown : Scrollback) (turn : Turn σ) (run : Run σ)
    (h : (shown.receiveAll run.calls).theme = run.session.theme) :
    (shown.receiveAll (take host turn run).2.calls).theme =
      (take host turn run).2.session.theme := by
  rw [take]
  exact Scrollback.theme_receiveAll_execute host turn.line (turn.start run) shown h

end Turn

/-- **The last colour stays.** A session starts with the theme of a new scrollback. A line that names
a colour for a layer tells the surface of the new theme once, between the echo and the confirmation;
other lines never do. So a scrollback that has the theme of the session keeps having it in every
series of turns, and each layer ends with the colour that was last named for it. -/
theorem last_color_stays (host : Host σ) :
    (∀ (directory : Path) (s : σ) (session : Session),
      (Session.start? host directory s).1 = some session →
      session.theme = ({} : Scrollback).theme) ∧
    (∀ (line : String) (run : Run σ), ∃ told,
      (Interpreter.execute host line run).2.calls = run.calls ++ told ∧
      (∀ layer color, Submission.colorFor? layer line = some color →
        told = [.append (.echo ("> " ++ Text.trim line)),
          .applyTheme (run.session.theme.setLayer layer color),
          .append (.plain (Command.layerName layer ++ " color changed to: " ++ color.name)),
          .append (.prompt (run.session.directory.display ++ "> "))]) ∧
      ((∀ layer, Submission.colorFor? layer line = none) →
        ∀ theme, SinkCall.applyTheme theme ∉ told)) ∧
    ∀ (turns : List (Turn σ)) (first : Run σ) (shown : Scrollback),
      (shown.receiveAll first.calls).theme = first.session.theme →
      let after := (Turn.takeAll host turns first).2
      (shown.receiveAll after.calls).theme = after.session.theme ∧
      ∀ layer, after.session.theme.layer layer =
        (turns.filterMap fun turn => Submission.colorFor? layer turn.line).getLast?.getD
          (first.session.theme.layer layer) := by
  refine ⟨fun directory s session start => ?_, fun line run => ?_,
    fun turns first shown agree => ⟨?_, fun layer => Turn.layer_takeAll host layer turns first⟩⟩
  · rw [Session.eq_of_start? start]
  · rcases Interpreter.recolors_or_not line with ⟨layer, color, recolors⟩ | other
    · rw [Interpreter.execute_of_recolors recolors]
      refine ⟨_, rfl, fun layer' color' h => ?_,
        fun none => absurd (none layer) (by simp [recolors])⟩
      -- The line recolours one layer only, so this is the same layer and the same colour.
      obtain rfl : layer = layer' := by
        by_contra ne
        simp [Submission.colorFor?_of_ne recolors ne] at h
      obtain rfl : color = color' := Option.some.inj (recolors.symm.trans h)
      rfl
    · obtain ⟨told, hcalls, untinted, -⟩ :=
        Interpreter.execute_of_not_recolors host run other
      exact ⟨told, hcalls, fun layer color h => absurd h (by simp [other layer]), fun _ => untinted⟩
  · exact Turn.takeAll_invariant host (Turn.theme_receiveAll_take host shown) turns first agree

/-- A colour that is found, and one that is not. -/
theorem aqua_after_mauve :
    let turns : List (Turn Unit) := [{ line := " FgColor  AQUA" }, { line := "fgcolor mauve" }]
    Submission.colorFor? .foreground " FgColor  AQUA" = some ⟨"Aqua", 0, 255, 255⟩ ∧
      (Scrollback.receiveAll {} (Turn.takeAll .bare turns .bare).2.calls).theme =
        (Turn.takeAll .bare turns .bare).2.session.theme ∧
      (Turn.takeAll .bare turns .bare).2.session.theme.layer .foreground =
        ⟨"Aqua", 0, 255, 255⟩ ∧
      (Turn.takeAll .bare turns .bare).2.session.theme.layer .background = .black := by
  intro turns
  have stays := (last_color_stays Host.bare).2.2 turns .bare {} rfl
  have named : Submission.colorFor? .foreground " FgColor  AQUA" =
      some ⟨"Aqua", 0, 255, 255⟩ := by decide +kernel
  have missed : Submission.colorFor? .foreground "fgcolor mauve" = none := by decide +kernel
  have nothing : ∀ turn ∈ turns, Submission.colorFor? .background turn.line = none := by
    decide +kernel
  refine ⟨named, stays.1, ?_, ?_⟩
  · rw [stays.2]
    simp [turns, named, missed]
  · rw [stays.2, List.filterMap_eq_nil_iff.2 nothing]
    rfl

end ThemedShell
