import ThemedShell.Output.Scrollback
import ThemedShell.Proofs.Turn

/-!
# Transcripts of turns

Whatever is submitted and whatever the machine answers, a turn tells the surface three things in
order: the echo of the line, a body of output, and the prompt of the session as it then is, which
is left out exactly when the session ends (`execute_transcript`). A scrollback that listens to a
whole series of turns therefore only grows, except where the surface is cleared, and ends with the
prompt as long as the session goes on (`turns_transcript`).
-/
namespace ThemedShell

variable {σ : Type}

/-! ## Scrollbacks that listen -/

namespace Scrollback

theorem receiveAll_append (s : Scrollback) (calls more : List SinkCall) :
    s.receiveAll (calls ++ more) = (s.receiveAll calls).receiveAll more := by
  simp only [receiveAll, List.foldl_append]

theorem lines_receiveAll_concat (s : Scrollback) (calls : List SinkCall) (line : Line) :
    (s.receiveAll (calls ++ [.append line])).lines = (s.receiveAll calls).lines ++ [line] := by
  rw [receiveAll_append]
  rfl

/-- What is shown stays as long as nothing is cleared. -/
theorem prefix_receiveAll :
    ∀ (calls : List SinkCall) (s : Scrollback), SinkCall.clear ∉ calls →
      s.lines <+: (s.receiveAll calls).lines
  | [], s, _ => List.prefix_refl s.lines
  | .append line :: calls, s, h =>
    (List.prefix_append s.lines [line]).trans
      (prefix_receiveAll calls (s.receive (.append line)) (by simpa using h))
  | .clear :: _, _, h => absurd (by simp) h
  | .applyTheme theme :: calls, s, h =>
    prefix_receiveAll calls (s.receive (.applyTheme theme)) (by simpa using h)

end Scrollback

namespace Interpreter

/-- `calls` is what a turn with this line and this outcome tells the surface, `body` the part that
the command has written. -/
structure Transcript (line : String) (outcome : Outcome) (after : Session)
    (body calls : List SinkCall) : Prop where
  calls_eq : calls = .append (.echo ("> " ++ Text.trim line)) :: body ++
    (if outcome = .proceed then [.append (.prompt (after.directory.display ++ "> "))] else [])
  output : ∀ shown, SinkCall.append shown ∈ body → shown.style ≠ .echo ∧ shown.style ≠ .prompt
  exit_iff : outcome = .exit ↔ (Submission.parse line).verb = "exit"
  exit_body : outcome = .exit → body = []
  clear_iff : SinkCall.clear ∈ body ↔ (Submission.parse line).verb = "cls"
  clear_body : (Submission.parse line).verb = "cls" → body = [.clear]

variable {host : Host σ} {run : Run σ}

/-- The body of a turn, for each effect that a request can have. -/
theorem body_of_effect {request : Request} {left : Except CommandError Outcome × Run σ}
    (effect : Request.Effect host run request left.1 left.2) :
    ∃ body, (finish left).2.calls = run.calls ++ body ++
        (if (finish left).1 = .proceed then [prompted (finish left).2.session] else []) ∧
      (∀ shown, SinkCall.append shown ∈ body → shown.IsOutput) ∧
      ((finish left).1 = .exit ↔ ∃ argument, request = .builtin .exit argument) ∧
      ((finish left).1 = .exit → body = []) ∧
      (SinkCall.clear ∈ body ↔ ∃ argument, request = .builtin .clear argument) ∧
      ((∃ argument, request = .builtin .clear argument) → body = [.clear]) := by
  obtain ⟨result, left⟩ := left
  cases effect with
  | failed e s ordinary =>
    refine ⟨[.append (.error e.message)], ?_⟩
    simp [finish, Line.IsOutput, Line.error, ordinary.ne_clear, ordinary.ne_exit]
  | wrote lines s ordinary output =>
    refine ⟨lines.map .append, ?_⟩
    simpa [finish, ordinary.ne_clear, ordinary.ne_exit] using output
  | moved target named resolved found =>
    refine ⟨[.append (.plain ("Directory changed to: " ++ target.display))], ?_⟩
    simp [finish, Line.IsOutput, Line.plain]
  | themed layer color known =>
    refine ⟨[.applyTheme (run.session.theme.setLayer layer color),
      .append (.plain (Command.layerName layer ++ " color changed to: " ++ color.name))], ?_⟩
    simp [finish, Line.IsOutput, Line.plain]
  | cleared argument => exact ⟨[.clear], by simp [finish]⟩
  | ended argument => exact ⟨[], by simp [finish]⟩

/-- **What one turn tells the surface.** -/
theorem execute_transcript (host : Host σ) (line : String) (run : Run σ) :
    ∃ body calls, (execute host line run).2.calls = run.calls ++ calls ∧
      Transcript line (execute host line run).1 (execute host line run).2.session body calls := by
  rw [execute_eq]
  by_cases blank : Text.trim line = ""
  · have noVerb := Submission.verb_of_blank blank
    simp only [blank, if_true]
    refine ⟨[], [echoed line, prompted run.session], rfl, ?_⟩
    constructor <;> simp [noVerb, echoed, prompted, Session.prompt]
  · simp only [blank, if_false]
    obtain ⟨body, hcalls, output, exits, exitBody, clears, clearBody⟩ := body_of_effect
      (Request.perform_effect host (Request.ofLine (Text.trim line)) (opened line run))
    rw [Request.exists_builtin_iff] at exits clears clearBody
    generalize finish _ = taken at *
    refine ⟨body, echoed line :: body ++ (if taken.1 = .proceed then [prompted taken.2.session]
      else []), by simpa using hcalls, ?_⟩
    exact ⟨rfl, output, exits, exitBody, clears, clearBody⟩

/-- What a transcript does to a scrollback that listens. -/
theorem Transcript.scrollback {line : String} {outcome : Outcome} {after : Session}
    {body calls : List SinkCall} (h : Transcript line outcome after body calls)
    (shown : Scrollback) :
    ((Submission.parse line).verb ≠ "cls" → shown.lines <+: (shown.receiveAll calls).lines) ∧
    ((Submission.parse line).verb = "cls" →
      (shown.receiveAll calls).lines = [.prompt (after.directory.display ++ "> ")]) ∧
    (outcome = .proceed →
      (shown.receiveAll calls).last? = some (.prompt (after.directory.display ++ "> "))) := by
  refine ⟨fun other => ?_, fun cls => ?_, fun proceeds => ?_⟩
  · apply Scrollback.prefix_receiveAll
    have : SinkCall.clear ∉ body := fun mem => other (h.clear_iff.1 mem)
    rw [h.calls_eq]
    split <;> simpa using this
  · have proceeds : outcome = .proceed := by
      cases outcome with
      | proceed => rfl
      | exit => exact absurd (h.exit_iff.1 rfl) (by rw [cls]; decide)
    rw [h.calls_eq, h.clear_body cls, if_pos proceeds]
    rfl
  · rw [h.calls_eq, if_pos proceeds, Scrollback.last?, Scrollback.lines_receiveAll_concat]
    simp

end Interpreter

/-- **Transcripts.** One turn tells the surface the echo, the body and the prompt, as `Transcript`
says. After any series of turns, the next one adds to what a scrollback shows unless it clears it,
which leaves the prompt alone; and while the session goes on, the last line is its prompt. -/
theorem turns_transcript (host : Host σ) :
    (∀ (line : String) (run : Run σ), ∃ body calls,
      (Interpreter.execute host line run).2.calls = run.calls ++ calls ∧
      Interpreter.Transcript line (Interpreter.execute host line run).1
        (Interpreter.execute host line run).2.session body calls) ∧
    ∀ (turns : List (Turn σ)) (turn : Turn σ) (first : Run σ) (shown : Scrollback),
      let before := (Turn.takeAll host turns first).2
      let outcomes := (Turn.takeAll host (turns ++ [turn]) first).1
      let after := (Turn.takeAll host (turns ++ [turn]) first).2
      let prompt := Line.prompt (after.session.directory.display ++ "> ")
      ((Submission.parse turn.line).verb ≠ "cls" →
        (shown.receiveAll before.calls).lines <+: (shown.receiveAll after.calls).lines) ∧
      ((Submission.parse turn.line).verb = "cls" →
        (shown.receiveAll after.calls).lines = [prompt]) ∧
      (outcomes.getLast? = some .proceed → (shown.receiveAll after.calls).last? = some prompt) := by
  refine ⟨Interpreter.execute_transcript host, fun turns turn first shown => ?_⟩
  rw [Turn.takeAll_concat, Turn.take]
  generalize (Turn.takeAll host turns first).2 = before
  obtain ⟨body, calls, hcalls, transcript⟩ :=
    Interpreter.execute_transcript host turn.line (turn.start before)
  generalize Interpreter.execute host turn.line (turn.start before) = taken at *
  have hafter : taken.2.calls = before.calls ++ calls := hcalls
  simp only [hafter, Scrollback.receiveAll_append, List.getLast?_append, List.getLast?_singleton,
    Option.some_or, Option.some.injEq]
  exact transcript.scrollback (shown.receiveAll before.calls)

/-- A line that clears the surface, after one that has written on it. -/
theorem cleared_after_help :
    let turns : List (Turn Unit) := [{ line := "help" }]
    let turn : Turn Unit := { line := " CLS " }
    (Submission.parse turn.line).verb = "cls" ∧
      (Scrollback.receiveAll {} (Turn.takeAll .bare (turns ++ [turn]) .bare).2.calls).lines =
        [.prompt ((Turn.takeAll .bare (turns ++ [turn]) .bare).2.session.directory.display ++
          "> ")] := by
  intro turns turn
  have cls : (Submission.parse turn.line).verb = "cls" := by decide +kernel
  exact ⟨cls, ((turns_transcript Host.bare).2 turns turn .bare {}).2.1 cls⟩

end ThemedShell
