import ThemedShell.Proofs.Turn

/-!
# Where lines go

A line goes to a built-in, or it is handed over to be run: whole if its first word is no built-in,
and without that word if it is `exec`. The machine is then given that command line once, with the
current directory. Of a line that goes to a built-in only the verb and the argument count
(`lines_are_routed`).
-/
namespace ThemedShell

variable {σ : Type}

/-! ## What requests hand over -/

namespace Request

/-- The command lines that a request made at `here` hands over, with their directories. -/
def launches (here : Path) : Request → List (String × Path)
  | .builtin .exec argument => if Text.isBlankText argument then [] else [(argument, here)]
  | .builtin _ _ => []
  | .external commandLine => [(commandLine, here)]

theorem launched_runExternal (host : Host σ) (commandLine : String) (run : Run σ) :
    ((Command.runExternal host.watched commandLine).perform run.watched).2.host.2.filterMap
      HostCall.launched? = [(commandLine, run.session.directory)] := by
  rw [Command.perform_runExternal]
  dsimp only
  split <;> rfl

theorem launched_exec (host : Host σ) (argument : String) (run : Run σ) :
    ((Command.exec host.watched argument).perform run.watched).2.host.2.filterMap
      HostCall.launched? =
        if Text.isBlankText argument then [] else [(argument, run.session.directory)] := by
  rw [Command.perform_exec]
  split
  · rfl
  · exact launched_runExternal host argument run

/-- Other built-ins hand over nothing. -/
theorem Asks.launched? {home : Option Path} {here : Path} {result : Except CommandError Outcome}
    {b : Builtin} {argument : String} {call : HostCall} (other : b ≠ .exec)
    (h : (Request.builtin b argument).Asks home here result call) : call.launched? = none := by
  cases call with
  | launch commandLine directory answer => cases b <;> first | exact absurd rfl other | exact h.elim
  | _ => rfl

/-- **What is on the record of command lines.** -/
theorem launched_asked (host : Host σ) (request : Request) (run : Run σ) :
    (request.asked host run).filterMap HostCall.launched? =
      request.launches run.session.directory := by
  have others : ∀ b argument, b ≠ .exec →
      ((Request.builtin b argument).asked host run).filterMap HostCall.launched? = [] :=
    fun b argument other => List.filterMap_eq_nil_iff.2 fun call hcall =>
      ((asked_spec host _ run).1 call hcall).launched? other
  cases request with
  | external commandLine => exact launched_runExternal host commandLine run
  | builtin b argument =>
    cases b with
    | exec => exact launched_exec host argument run
    | _ => exact others _ argument (by simp)

/-- A request that hands over a command line leaves the session alone and lets it go on. -/
theorem Effect.of_launches {host : Host σ} {request : Request} {run : Run σ} {here : Path}
    {left : Except CommandError Outcome × Run σ} (effect : Effect host run request left.1 left.2)
    (h : request.launches here ≠ []) :
    (Interpreter.finish left).1 = .proceed ∧
      (Interpreter.finish left).2.session = run.session := by
  obtain ⟨result, left⟩ := left
  cases effect with
  | failed e s ordinary => exact ⟨rfl, rfl⟩
  | wrote lines s ordinary output => exact ⟨rfl, rfl⟩
  | cleared argument => exact ⟨rfl, rfl⟩
  | moved target named resolved found => exact absurd rfl h
  | themed layer color known => exact absurd rfl h
  | ended argument => exact absurd rfl h

end Request

namespace Interpreter

/-- What a line hands over, by its first word. -/
theorem launches_ofLine (line : String) (here : Path) :
    (Request.ofLine (Text.trim line)).launches here =
      if isBuiltin (Submission.word line) = false then [(Text.trim line, here)]
      else if Text.lowercase (Submission.word line) = "exec" ∧
        (Submission.parse line).argument ≠ "" then [((Submission.parse line).argument, here)]
      else [] := by
  rw [Request.ofLine_trim, isBuiltin, ← Submission.verb_eq]
  cases hb : Builtin.ofVerb? (Submission.parse line).verb with
  | none => rfl
  | some b =>
    have hverb := Builtin.ofVerb?_eq_some.1 hb
    have blank := Submission.isBlankText_argument line
    rw [hverb]
    cases b with
    | exec => by_cases empty : (Submission.parse line).argument = "" <;>
        simp_all [Request.launches, Builtin.verb]
    | color layer => cases layer <;> simp [Request.launches, Builtin.verb]
    | _ => simp [Request.launches, Builtin.verb]

theorem launched_execute (host : Host σ) (line : String) (run : Run σ) :
    (asked host line run).filterMap HostCall.launched? =
      if Text.trim line = "" then []
      else (Request.ofLine (Text.trim line)).launches run.session.directory := by
  rw [asked_eq]
  split
  · rfl
  · rw [Request.launched_asked, session_opened]

/-- Handing over a command line leaves the session alone, whatever the machine answers. -/
theorem execute_of_launched (host : Host σ) (line : String) (run : Run σ)
    (h : (asked host line run).filterMap HostCall.launched? ≠ []) :
    (execute host line run).1 = .proceed ∧ (execute host line run).2.session = run.session := by
  rw [launched_execute] at h
  rw [execute_eq]
  split at h
  · exact absurd rfl h
  · next nonblank =>
    rw [if_neg nonblank]
    exact (Request.perform_effect host _ (opened line run)).of_launches h

/-- Behind the echo and the note of its route a turn depends on the request alone, not on what has
been told or noted before. -/
theorem execute_frame (host : Host σ) {line : String} (run : Run σ) (h : Text.trim line ≠ "") :
    execute host line run =
      (Simulation.behind host (opened line run).calls (opened line run).log).along
        (finish ((Request.ofLine (Text.trim line)).perform host run.fresh)) := by
  have fresh : (opened line run).fresh = run.fresh := rfl
  rw [execute_eq, if_neg h, ← fresh, ← finish_along, ← Simulation.perform_view,
    Simulation.behind_view]

theorem asked_frame (host : Host σ) {line : String} (run : Run σ) (h : Text.trim line ≠ "") :
    asked host line run =
      ((Request.ofLine (Text.trim line)).perform host.watched run.watched.fresh).2.host.2 := by
  rw [asked, execute_frame host.watched run.watched h, Simulation.host_behind, host_finish]

/-- Lines with the same built-in verb and the same argument make the same request. -/
theorem ofLine_eq {line other : String} (known : isBuiltin (Submission.word line) = true)
    (verb : Text.lowercase (Submission.word line) = Text.lowercase (Submission.word other))
    (argument : (Submission.parse line).argument = (Submission.parse other).argument) :
    Request.ofLine (Text.trim line) = Request.ofLine (Text.trim other) := by
  obtain ⟨b, hb⟩ := Option.isSome_iff_exists.1 known
  rw [← Submission.verb_eq] at hb
  rw [← Submission.verb_eq, ← Submission.verb_eq] at verb
  rw [Request.ofLine_trim, Request.ofLine_trim, ← verb, hb, argument]

/-- A line whose first word is built in is not blank. -/
theorem trim_ne_empty {line : String} (known : isBuiltin (Submission.word line) = true) :
    Text.trim line ≠ "" := by
  intro blank
  obtain ⟨b, hb⟩ := Option.isSome_iff_exists.1 known
  rw [← Submission.verb_eq, Submission.verb_of_blank blank] at hb
  exact b.verb_ne_empty (Builtin.ofVerb?_eq_some.1 hb).symm

end Interpreter

/-- **Where lines go.** A line hands over one command line or none: all of it if it is not blank and
its first word is no built-in, the argument, which stands at its end, if that word is `exec` and
the argument is not empty. It is handed over with the current directory, and neither the session
nor the outcome depends on how that ends. Two lines with the same built-in verb and the same
argument do the same, but for the echo. -/
theorem lines_are_routed (host : Host σ) :
    (∀ (line : String) (run : Run σ),
      let text := Text.trim line
      let argument := (Submission.parse line).argument
      let here := run.session.directory
      let launched := (Interpreter.asked host line run).filterMap HostCall.launched?
      launched = (if text = "" then []
        else if isBuiltin (Submission.word line) = false then [(text, here)]
        else if Text.lowercase (Submission.word line) = "exec" ∧ argument ≠ "" then
          [(argument, here)]
        else []) ∧
      argument.toList <:+ text.toList ∧
      (launched ≠ [] → (Interpreter.execute host line run).1 = .proceed ∧
        (Interpreter.execute host line run).2.session = run.session)) ∧
    ∀ (line other : String) (run : Run σ), isBuiltin (Submission.word line) = true →
      Text.lowercase (Submission.word line) = Text.lowercase (Submission.word other) →
      (Submission.parse line).argument = (Submission.parse other).argument →
      (Interpreter.execute host line run).1 = (Interpreter.execute host other run).1 ∧
      (Interpreter.execute host line run).2.session =
        (Interpreter.execute host other run).2.session ∧
      (Interpreter.execute host line run).2.host = (Interpreter.execute host other run).2.host ∧
      Interpreter.asked host line run = Interpreter.asked host other run ∧
      ∃ told, (Interpreter.execute host line run).2.calls =
          run.calls ++ .append (.echo ("> " ++ Text.trim line)) :: told ∧
        (Interpreter.execute host other run).2.calls =
          run.calls ++ .append (.echo ("> " ++ Text.trim other)) :: told := by
  constructor
  · intro line run text argument here launched
    refine ⟨?_, Submission.argument_suffix line, Interpreter.execute_of_launched host line run⟩
    rw [← Interpreter.launches_ofLine]
    exact Interpreter.launched_execute host line run
  · intro line other run known verb argument
    have request := Interpreter.ofLine_eq known verb argument
    have nonblank := Interpreter.trim_ne_empty known
    have nonblank' : Text.trim other ≠ "" :=
      Interpreter.trim_ne_empty ((isBuiltin_congr verb).symm.trans known)
    rw [Interpreter.asked_frame host run nonblank, Interpreter.asked_frame host run nonblank',
      Interpreter.execute_frame host run nonblank, Interpreter.execute_frame host run nonblank',
      request]
    generalize Interpreter.finish _ = left
    simp only [Simulation.fst_along, Simulation.session_along, Simulation.host_behind, true_and]
    refine ⟨left.2.calls, ?_, ?_⟩ <;>
      simp [Simulation.along, Simulation.behind, Interpreter.echoed]

/-- Two ways to write the same request. -/
theorem exec_in_any_case :
    isBuiltin (Submission.word " ExEc   ls  -l ") = true ∧
      Text.lowercase (Submission.word " ExEc   ls  -l ") =
        Text.lowercase (Submission.word "exec ls  -l") ∧
      (Submission.parse " ExEc   ls  -l ").argument = (Submission.parse "exec ls  -l").argument ∧
      Interpreter.asked .bare " ExEc   ls  -l " .bare =
        Interpreter.asked .bare "exec ls  -l" .bare := by
  have known : isBuiltin (Submission.word " ExEc   ls  -l ") = true := by decide +kernel
  have verb : Text.lowercase (Submission.word " ExEc   ls  -l ") =
      Text.lowercase (Submission.word "exec ls  -l") := by decide +kernel
  have argument : (Submission.parse " ExEc   ls  -l ").argument =
      (Submission.parse "exec ls  -l").argument := by decide +kernel
  have same := (lines_are_routed Host.bare).2 _ _ .bare known verb argument
  exact ⟨known, verb, argument, same.2.2.2.1⟩

end ThemedShell
