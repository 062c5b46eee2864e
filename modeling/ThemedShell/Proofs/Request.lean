import ThemedShell.Proofs.CommandResult
import ThemedShell.Proofs.Submission

/-!
# Requests

A line that is not blank is a request: for a built-in with an argument, or for an external command.
`Effect` says in six cases all that a request can come to; what holds of every line is proved by
going through them. `execute_eq` places a request between the echo and the prompt.
-/
namespace ThemedShell

/-- What a line asks for. -/
inductive Request where
  | builtin (builtin : Builtin) (argument : String)
  | external (commandLine : String)
deriving DecidableEq, Repr

/-- The line is neither echoed input nor a prompt: it belongs to the output of a command. -/
def Line.IsOutput (line : Line) : Prop := line.style ≠ .echo ∧ line.style ≠ .prompt

namespace Request

/-- The request that a line without blanks at its ends makes. -/
def ofLine (line : String) : Request :=
  match Builtin.ofVerb? (Submission.parse line).verb with
  | some b => .builtin b (Submission.parse line).argument
  | none => .external line

variable {σ : Type}

def action (host : Host σ) : Request → Action σ Outcome
  | .builtin b argument => b.run host argument
  | .external commandLine => Command.runExternal host commandLine

/-- What a request comes to, and the run it leaves. -/
def perform (host : Host σ) (request : Request) (run : Run σ) :
    Except CommandError Outcome × Run σ :=
  (request.action host).perform run

theorem dispatch_eq (host : Host σ) (line : String) :
    Interpreter.dispatch host line = (ofLine line).action host := by
  simp only [Interpreter.dispatch, ofLine]
  cases Builtin.ofVerb? (Submission.parse line).verb <;> rfl

/-- Requests that write lines or fail; the others clear the surface or end the session. -/
def Ordinary : Request → Prop
  | .builtin .clear _ | .builtin .exit _ => False
  | _ => True

theorem Ordinary.ne_clear {request : Request} (h : request.Ordinary) (argument : String) :
    request ≠ .builtin .clear argument := by
  rintro rfl
  exact h

theorem Ordinary.ne_exit {request : Request} (h : request.Ordinary) (argument : String) :
    request ≠ .builtin .exit argument := by
  rintro rfl
  exact h

/-- All that a request can come to. The machine may be left in any state; session, surface and log
change only as the cases say. -/
inductive Effect (host : Host σ) (run : Run σ) :
    Request → Except CommandError Outcome → Run σ → Prop where
  | failed {request : Request} (e : CommandError) (s : σ) (ordinary : request.Ordinary) :
    Effect host run request (.error e) { run with host := s }
  | wrote {request : Request} (lines : List Line) (s : σ) (ordinary : request.Ordinary)
    (output : ∀ line ∈ lines, line.IsOutput) :
    Effect host run request (.ok .proceed) ({ run with host := s }.told (lines.map .append))
  | moved {argument : String} (target : Path) (named : Text.isBlankText argument = false)
    (resolved : Path.resolve host.home run.session.directory argument = some target)
    (found : run.answer (host.isDirectory target) = true) :
    Effect host run (.builtin .changeDirectory argument) (.ok .proceed)
      (({ run.after (host.isDirectory target) with
        session := { run.session with directory := target } }.noted [.directoryChanged target]).told
        [.append (.plain ("Directory changed to: " ++ target.display))])
  | themed {argument : String} (layer : Layer) (color : Color)
    (known : Color.parse argument = .ok color) :
    Effect host run (.builtin (.color layer) argument) (.ok .proceed)
      (({ run with session :=
          { run.session with theme := run.session.theme.setLayer layer color } }.noted
          [.themeChanged layer color]).told
        [.applyTheme (run.session.theme.setLayer layer color),
          .append (.plain (Command.layerName layer ++ " color changed to: " ++ color.name))])
  | cleared (argument : String) :
    Effect host run (.builtin .clear argument) (.ok .proceed) (run.told [.clear])
  | ended (argument : String) : Effect host run (.builtin .exit argument) (.ok .exit) run

/-! ## Every request has one of the effects -/

theorem isOutput_listing (listing : Command.Listing) : ∀ line ∈ listing.lines, line.IsOutput := by
  intro line hline
  simp only [Command.Listing.lines, List.mem_append, List.mem_map] at hline
  rcases hline with ⟨name, -, rfl⟩ | ⟨name, -, rfl⟩ <;> simp [Line.IsOutput]

theorem isOutput_render (result : External.Result) :
    ∀ line ∈ Command.render result, line.IsOutput := by
  intro line hline
  simp only [Command.render, Command.verdict, List.mem_append, List.mem_map] at hline
  rcases hline with ⟨text, -, rfl⟩ | complains | notifies
  · simp [Line.IsOutput, Line.plain]
  · simp only [Command.complaint] at complains
    split at complains <;> simp_all [Line.IsOutput, Line.error]
  · simp only [Command.statusNotice] at notifies
    split at notifies <;> simp_all [Line.IsOutput, Line.warning]

variable {host : Host σ} {run : Run σ}

/-- One line of a style that commands write in. -/
theorem Effect.wroteOne {request : Request} (line : Line) (s : σ) (ordinary : request.Ordinary)
    (output : line.IsOutput) :
    Effect host run request (.ok .proceed) ({ run with host := s }.told [.append line]) :=
  .wrote [line] s ordinary (by simpa using output)

theorem effect_runExternal {request : Request} (commandLine : String)
    (ordinary : request.Ordinary) :
    Effect host run request ((Command.runExternal host commandLine).perform run).1
      ((Command.runExternal host commandLine).perform run).2 := by
  rw [Command.perform_runExternal]
  dsimp only
  split
  · exact .failed _ _ ordinary
  · exact .wrote _ _ ordinary (isOutput_render _)

theorem effect_changeDirectory (argument : String) :
    Effect host run (.builtin .changeDirectory argument)
      ((Command.changeDirectory host argument).perform run).1
      ((Command.changeDirectory host argument).perform run).2 := by
  rw [Command.perform_changeDirectory]
  split
  · exact .wroteOne _ run.host trivial (by simp [Line.IsOutput, Line.plain])
  · next named =>
    split
    · exact .failed _ run.host trivial
    · next target resolved =>
      split
      · next found => exact .moved target (by simpa using named) resolved found
      · exact .failed _ _ trivial

theorem effect_listAt (argument : String) (target : Path) :
    Effect host run (.builtin .list argument)
      ((Command.listAt host argument target).perform run).1
      ((Command.listAt host argument target).perform run).2 := by
  rw [Command.perform_listAt]
  dsimp only
  split
  · split
    · exact .failed _ _ trivial
    · split
      · exact .failed _ _ trivial
      · refine .wrote _ _ trivial fun line hline => ?_
        rcases List.mem_cons.1 hline with rfl | hline
        · simp [Line.IsOutput, Line.plain]
        · exact isOutput_listing _ line hline
  · exact .failed _ _ trivial

theorem effect_makeDirectory (argument : String) :
    Effect host run (.builtin .makeDirectory argument)
      ((Command.makeDirectory host argument).perform run).1
      ((Command.makeDirectory host argument).perform run).2 := by
  rw [Command.perform_makeDirectory]
  dsimp only
  split
  · exact .wroteOne _ run.host trivial (by simp [Line.IsOutput, Line.warning])
  · split
    · exact .failed _ _ trivial
    · split
      · exact .failed _ _ trivial
      · exact .wroteOne _ _ trivial (by simp [Line.IsOutput, Line.plain])

/-- **Every request has one of the six effects.** -/
theorem perform_effect (host : Host σ) (request : Request) (run : Run σ) :
    Effect host run request (request.perform host run).1 (request.perform host run).2 := by
  cases request with
  | external commandLine => exact effect_runExternal commandLine trivial
  | builtin b argument =>
    cases b with
    | help =>
      refine .wrote (Command.helpLines.map .plain) run.host trivial fun line hline => ?_
      obtain ⟨text, -, rfl⟩ := List.mem_map.1 hline
      simp [Line.IsOutput, Line.plain]
    | changeDirectory => exact effect_changeDirectory argument
    | list =>
      show Effect host run _ ((Command.list host argument).perform run).1
        ((Command.list host argument).perform run).2
      rw [Command.perform_list]
      split
      · exact .failed _ run.host trivial
      · exact effect_listAt argument _
    | makeDirectory => exact effect_makeDirectory argument
    | clear => exact .cleared argument
    | color layer =>
      show Effect host run _ ((Command.setColor layer argument).perform run).1
        ((Command.setColor layer argument).perform run).2
      rw [Command.perform_setColor]
      split
      · exact .failed _ run.host trivial
      · next color known => exact .themed layer color known
    | exec =>
      show Effect host run _ ((Command.exec host argument).perform run).1
        ((Command.exec host argument).perform run).2
      rw [Command.perform_exec]
      split
      · exact .wroteOne _ run.host trivial (by simp [Line.IsOutput, Line.warning])
      · exact effect_runExternal argument trivial
    | exit => exact .ended argument

end Request

end ThemedShell
