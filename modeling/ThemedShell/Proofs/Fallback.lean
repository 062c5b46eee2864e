import ThemedShell.Proofs.Routing

/-!
# Two ways to hand over a command line

A line whose first word is no built-in is handed over as it is; `exec` hands over its argument. Both
come to the same request to the machine and the same lines (`execute_of_launches`), so the word
`exec` before such a line changes nothing but the echo (`exec_agrees_with_fallback`).
-/
namespace ThemedShell

variable {σ : Type}

/-- What the surface is told of the machine's answer to a command line. -/
def Command.told : Except External.Error External.Result → List SinkCall
  | .ok result => (Command.render result).map .append
  | .error cause => [.append (.error (CommandError.external cause).message)]

/-- What is noted of the machine's answer to a command line. -/
def Command.noted : Except External.Error External.Result → List LogEvent
  | .ok _ => []
  | .error cause => [.commandFailed (.external cause)]

namespace Request

/-- A request that hands over a command line does nothing else. -/
theorem action_of_launches {request : Request} {command : String} {here there : Path}
    (h : request.launches here = [(command, there)]) (host : Host σ) :
    request.action host = Command.runExternal host command := by
  cases request with
  | external commandLine =>
    obtain ⟨rfl, -⟩ := Prod.mk.inj (List.singleton_inj.1 h)
    rfl
  | builtin b argument =>
    cases b with
    | exec =>
      simp only [launches] at h
      split at h
      · cases h
      · next named =>
        obtain ⟨rfl, -⟩ := Prod.mk.inj (List.singleton_inj.1 h)
        show Command.exec host argument = _
        rw [Command.exec, if_neg named]
    | _ => cases h

end Request

namespace Interpreter

variable {host : Host σ} {line command : String} {run : Run σ} {there : Path}

/-- **A turn that hands over a command line**: the machine runs it once in the current directory, and
behind the echo stands what came back. Its route is noted, and the failure if it cannot be run. -/
theorem execute_of_launches (nonblank : Text.trim line ≠ "")
    (h : (Request.ofLine (Text.trim line)).launches run.session.directory = [(command, there)]) :
    let question := host.launch command run.session.directory
    execute host line run = (.proceed, ((run.after question).noted
        (route (Text.trim line) :: Command.noted (run.answer question))).told
      (echoed line :: Command.told (run.answer question) ++ [prompted run.session])) := by
  intro question
  have performed : (Request.ofLine (Text.trim line)).perform host (opened line run) =
      (Command.runExternal host command).perform (opened line run) := by
    rw [Request.perform, Request.action_of_launches h]
  rw [execute_eq, if_neg nonblank, performed, Command.perform_runExternal, session_opened]
  have answered : (opened line run).answer question = run.answer question := rfl
  dsimp only
  rw [answered]
  cases run.answer question <;>
    simp [finish, opened, Run.told, Run.noted, Run.after, Command.told, Command.noted, question]

theorem asked_of_launches (nonblank : Text.trim line ≠ "")
    (h : (Request.ofLine (Text.trim line)).launches run.session.directory = [(command, there)]) :
    asked host line run = [.launch command run.session.directory
      (run.answer (host.launch command run.session.directory))] := by
  have launched := @execute_of_launches _ host.watched line command run.watched there nonblank h
  rw [asked, launched]
  rfl

/-! ## The two ways -/

/-- A line whose first word is no built-in is handed over whole. -/
theorem launches_of_unknown {text : String} (unknown : isBuiltin (Submission.word text) = false)
    (here : Path) :
    (Request.ofLine (Text.trim text)).launches here = [(Text.trim text, here)] := by
  rw [launches_ofLine, if_pos unknown]

theorem parse_exec (text : String) :
    Submission.parse ("exec " ++ text) = { verb := "exec", argument := Text.trim text } :=
  @Submission.parse_word_append "exec" " " (by decide) (by decide) (by decide) (by decide) text

/-- `exec` hands over what stands behind it, without the blanks around that. -/
theorem launches_of_exec {text : String} (nonblank : Text.trim text ≠ "") (here : Path) :
    (Request.ofLine (Text.trim ("exec " ++ text))).launches here = [(Text.trim text, here)] := by
  have verb : (Submission.parse ("exec " ++ text)).verb = Builtin.exec.verb := by
    rw [parse_exec]
    rfl
  have argument : (Submission.parse ("exec " ++ text)).argument = Text.trim text := by
    rw [parse_exec]
  have named : ¬Text.isBlankText (Text.trim text) = true := by
    rw [← argument, Submission.isBlankText_argument, argument]
    exact nonblank
  rw [Request.verb_eq_iff.1 verb, argument, Request.launches, if_neg named]

theorem trim_exec_ne_empty (text : String) : Text.trim ("exec " ++ text) ≠ "" := by
  intro blank
  have verb := Submission.verb_of_blank blank
  rw [parse_exec] at verb
  exact absurd verb (show "exec" ≠ "" by decide)

end Interpreter

/-- **`exec` agrees with the fallback.** Take a text that is not blank and does not begin with the word
of a built-in. As a line of its own and behind `exec` it asks the machine the same one question: to
run the text, without the blanks around it, in the current directory. Whatever the machine answers,
both lines come to the same outcome, session and machine, and behind the echo they tell the surface
the same. -/
theorem exec_agrees_with_fallback (host : Host σ) (text : String) (run : Run σ)
    (nonblank : Text.trim text ≠ "") (unknown : isBuiltin (Submission.word text) = false) :
    let line := "exec " ++ text
    let here := run.session.directory
    let answer := run.answer (host.launch (Text.trim text) here)
    let behind := Interpreter.execute host line run
    let alone := Interpreter.execute host text run
    Interpreter.asked host line run = [.launch (Text.trim text) here answer] ∧
    Interpreter.asked host text run = [.launch (Text.trim text) here answer] ∧
    behind.1 = alone.1 ∧ behind.2.session = alone.2.session ∧ behind.2.host = alone.2.host ∧
    ∃ told, told = Command.told answer ++ [.append (.prompt (here.display ++ "> "))] ∧
      behind.2.calls = run.calls ++ .append (.echo ("> " ++ Text.trim line)) :: told ∧
      alone.2.calls = run.calls ++ .append (.echo ("> " ++ Text.trim text)) :: told := by
  intro line here answer behind alone
  have nonblank' : Text.trim line ≠ "" := Interpreter.trim_exec_ne_empty text
  have launches := Interpreter.launches_of_exec nonblank here
  have launches' := Interpreter.launches_of_unknown unknown here
  have hbehind : behind = _ := Interpreter.execute_of_launches nonblank' launches
  have halone : alone = _ := Interpreter.execute_of_launches nonblank launches'
  refine ⟨Interpreter.asked_of_launches nonblank' launches,
    Interpreter.asked_of_launches nonblank launches', ?_, ?_, ?_, _, rfl, ?_, ?_⟩
  · rw [hbehind, halone]
  · simp only [hbehind, halone, Run.session_told, Run.session_noted]
  · simp only [hbehind, halone, Run.host_told, Run.host_noted]
  · rw [hbehind, Run.calls_told, Run.calls_noted, Run.calls_after]
    rfl
  · rw [halone, Run.calls_told, Run.calls_noted, Run.calls_after]
    rfl

/-- A text with blanks of several kinds, which the machine refuses to run. -/
theorem refused_both_ways :
    let refusal : External.Error := .launch "Grep  -r x" .noSuchEntry
    let host : Host Unit := { Host.bare with launch := fun _ _ => pure (.error refusal) }
    let text := " \t Grep  -r x\u2003"
    Text.trim text ≠ "" ∧ isBuiltin (Submission.word text) = false ∧
      Interpreter.asked host ("exec " ++ text) .bare = Interpreter.asked host text .bare ∧
      (Interpreter.execute host ("exec " ++ text) .bare).2.calls =
        [.append (.echo "> exec  \t Grep  -r x"),
          .append (.error (CommandError.external refusal).message), .append (.prompt "/> ")] := by
  intro refusal host text
  have nonblank : Text.trim text ≠ "" := by decide +kernel
  have unknown : isBuiltin (Submission.word text) = false := by decide +kernel
  obtain ⟨asked, asked', -, -, -, told, rfl, calls, -⟩ :=
    exec_agrees_with_fallback host text .bare nonblank unknown
  refine ⟨nonblank, unknown, asked.trans asked'.symm, calls.trans ?_⟩
  have echo : "> " ++ Text.trim ("exec " ++ text) = "> exec  \t Grep  -r x" := by decide +kernel
  rw [echo]
  rfl

end ThemedShell
