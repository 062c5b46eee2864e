import ThemedShell.Proofs.Turn

/-!
# Failures

A request that fails has done nothing: it has told the surface nothing, the session is as it was,
and of the machine it has asked only questions that change nothing. A line whose request fails is
therefore shown as its echo, one error and the prompt of the unchanged session
(`failure_leaves_all_as_it_was`).
-/
namespace ThemedShell

variable {σ : Type}

namespace Request

/-- Neither a directory made nor a command line run is among the questions of a failure. -/
theorem Asks.not_acts {home : Option Path} {here : Path} {e : CommandError} {request : Request}
    {call : HostCall} (h : request.Asks home here (.error e) call) : ¬ call.Acts := by
  intro acts
  cases call with
  | isDirectory path answer => exact acts
  | occupied path answer => exact acts
  | listDirectory path answer => exact acts
  | createDirectory path answer =>
    cases request with
    | external line => exact h
    | builtin b argument =>
      cases b <;> simp_all [Asks, HostCall.Acts, Except.isOk, Except.toBool]
  | launch commandLine directory answer =>
    cases request with
    | external line => simp_all [Asks, HostCall.Acts, Except.isOk, Except.toBool]
    | builtin b argument =>
      cases b <;> simp_all [Asks, HostCall.Acts, Except.isOk, Except.toBool]

variable {host : Host σ} {request : Request} {run : Run σ} {e : CommandError}

/-- A failure leaves the run as it was, but for the state of the machine. -/
theorem perform_of_error (failed : (request.perform host run).1 = .error e) :
    (request.perform host run).2 = { run with host := (request.perform host run).2.host } := by
  have effect := perform_effect host request run
  rw [failed] at effect
  generalize (request.perform host run).2 = left at *
  cases effect
  rfl

theorem not_acts_of_error (failed : (request.perform host run).1 = .error e) :
    ∀ call ∈ request.asked host run, ¬ call.Acts := by
  intro call hcall
  have asks := (asked_spec host request run).1 call hcall
  rw [failed] at asks
  exact asks.not_acts

/-- Whatever only directories made and command lines run can change is as it was. -/
theorem view_of_error {α : Type} {view : σ → α}
    (stable : host.Keeps (fun call => ¬ call.Acts) (fun s t => view t = view s))
    (failed : (request.perform host run).1 = .error e) :
    view (request.perform host run).2.host = view run.host :=
  Host.Exchange.keeps (R := fun s t => view t = view s) (fun _ => rfl)
    (fun _ _ _ first second => second.trans first) stable (asked_spec host request run).2
    (not_acts_of_error failed)

end Request

theorem Request.fst_perform_opened (host : Host σ) (request : Request) (line : String)
    (run : Run σ) : (request.perform host (Interpreter.opened line run)).1 =
      (request.perform host (run.told [Interpreter.echoed line])).1 := by
  obtain ⟨log, noted⟩ := request.perform_noted host (run.told [Interpreter.echoed line])
    [Interpreter.route (Text.trim line)]
  rw [Interpreter.opened, noted]

/-- **A line whose request fails** is echoed and explained by one error, and the session goes on. It
makes no difference that the route of the line has been noted before. -/
theorem Interpreter.execute_of_error {host : Host σ} {line : String} {run : Run σ} {e : CommandError}
    (nonblank : Text.trim line ≠ "")
    (failed : ((Request.ofLine (Text.trim line)).perform host (run.told [echoed line])).1 =
      .error e) :
    (execute host line run).1 = .proceed ∧ (execute host line run).2.session = run.session ∧
      (execute host line run).2.calls =
        run.calls ++ [echoed line, .append (.error e.message), prompted run.session] := by
  obtain ⟨log, noted⟩ := Request.perform_noted host (Request.ofLine (Text.trim line))
    (run.told [echoed line]) [route (Text.trim line)]
  rw [execute_eq, if_neg nonblank, opened, noted, failed, Request.perform_of_error failed]
  exact ⟨rfl, session_finish _, by simp [finish]⟩

/-- **A failure leaves all as it was.** For a request that fails: nothing is told, the session is
the same, no directory has been made and no command line run, and whatever only these can change is
the same. A line that fails is echoed, explained by one error and followed by the same prompt. -/
theorem failure_leaves_all_as_it_was (host : Host σ) :
    (∀ (request : Request) (run : Run σ) (e : CommandError),
      (request.perform host run).1 = .error e →
      (request.perform host run).2.calls = run.calls ∧
      (request.perform host run).2.session = run.session ∧
      (∀ call ∈ request.asked host run, ¬ call.Acts) ∧
      ∀ (α : Type) (view : σ → α),
        host.Keeps (fun call => ¬ call.Acts) (fun s t => view t = view s) →
        view (request.perform host run).2.host = view run.host) ∧
    ∀ (line : String) (run : Run σ) (e : CommandError), Text.trim line ≠ "" →
      ((Interpreter.dispatch host (Text.trim line)).perform
        (run.told [.append (.echo ("> " ++ Text.trim line))])).1 = .error e →
      (Interpreter.execute host line run).1 = .proceed ∧
      (Interpreter.execute host line run).2.session = run.session ∧
      (Interpreter.execute host line run).2.calls = run.calls ++
        [.append (.echo ("> " ++ Text.trim line)), .append (.error e.message),
          .append (.prompt (run.session.directory.display ++ "> "))] := by
  constructor
  · intro request run e failed
    rw [Request.perform_of_error failed]
    exact ⟨rfl, rfl, Request.not_acts_of_error failed,
      fun α view stable => Request.view_of_error stable failed⟩
  · intro line run e nonblank failed
    rw [Request.dispatch_eq] at failed
    exact Interpreter.execute_of_error nonblank failed

/-- A directory that is there already. -/
theorem made_again :
    ((Request.builtin .makeDirectory "docs").perform .bare .bare).1 =
      .error (.alreadyExists "docs") ∧
    (∀ call ∈ (Request.builtin .makeDirectory "docs").asked .bare .bare, ¬ call.Acts) ∧
    Text.trim " mkdir docs" ≠ "" ∧
    (Interpreter.execute .bare " mkdir docs" .bare).2.calls = Run.bare.calls ++
      [.append (.echo ("> " ++ Text.trim " mkdir docs")),
        .append (.error (CommandError.alreadyExists "docs").message),
        .append (.prompt (Run.bare.session.directory.display ++ "> "))] := by
  have refused : ((Request.builtin .makeDirectory "docs").perform .bare .bare).1 =
      .error (.alreadyExists "docs") := by decide +kernel
  have nonblank : Text.trim " mkdir docs" ≠ "" := by decide +kernel
  have failed : ((Interpreter.dispatch .bare (Text.trim " mkdir docs")).perform
      (Run.bare.told [.append (.echo ("> " ++ Text.trim " mkdir docs"))])).1 =
        .error (.alreadyExists "docs") := by decide +kernel
  have all := failure_leaves_all_as_it_was Host.bare
  exact ⟨refused, (all.1 _ .bare _ refused).2.2.1, nonblank, (all.2 _ .bare _ nonblank failed).2.2⟩

end ThemedShell
