import ThemedShell.Proofs.Asking

/-!
# Turns

A turn is one line taken by the interpreter. `execute_eq` says what it does around the request that
the line makes, and `asked_eq` what it asks of the machine. Turns that follow each other make a
sitting; between two of them others may have worked on the machine.
-/
namespace ThemedShell

variable {σ : Type}

namespace Request

/-- The request of a line depends on the line without the blanks around it. -/
theorem ofLine_trim (line : String) :
    ofLine (Text.trim line) =
      match Builtin.ofVerb? (Submission.parse line).verb with
      | some b => .builtin b (Submission.parse line).argument
      | none => .external (Text.trim line) := by
  cases hb : Builtin.ofVerb? (Submission.parse line).verb with
  | none => simp only [ofLine, Submission.parse_trim, hb]
  | some b => simp only [ofLine, Submission.parse_trim, hb]

/-- A line makes a request for the built-in that its verb names. -/
theorem verb_eq_iff {line : String} {b : Builtin} :
    (Submission.parse line).verb = b.verb ↔
      ofLine (Text.trim line) = .builtin b (Submission.parse line).argument := by
  rw [ofLine_trim, ← Builtin.ofVerb?_eq_some]
  cases Builtin.ofVerb? (Submission.parse line).verb with
  | none => simp
  | some a => simp

theorem verb_of_builtin {line argument : String} {b : Builtin}
    (h : ofLine (Text.trim line) = .builtin b argument) :
    (Submission.parse line).verb = b.verb ∧ (Submission.parse line).argument = argument := by
  rw [ofLine_trim] at h
  cases hb : Builtin.ofVerb? (Submission.parse line).verb with
  | none => simp [hb] at h
  | some a =>
    simp only [hb, builtin.injEq] at h
    exact ⟨h.1 ▸ Builtin.ofVerb?_eq_some.1 hb, h.2⟩

theorem exists_builtin_iff {line : String} {b : Builtin} :
    (∃ argument, ofLine (Text.trim line) = .builtin b argument) ↔
      (Submission.parse line).verb = b.verb := by
  constructor
  · rintro ⟨argument, h⟩
    exact (verb_of_builtin h).1
  · intro h
    exact ⟨_, verb_eq_iff.1 h⟩

end Request

namespace Interpreter

/-- The line that is echoed. -/
def echoed (line : String) : SinkCall := .append (.echo ("> " ++ Text.trim line))

/-- The line that prompts for the next one. -/
def prompted (session : Session) : SinkCall := .append (.prompt session.prompt)

theorem report_eq (action : Action σ Outcome) (run : Run σ) :
    report action run =
      match action.perform run with
      | (.ok outcome, left) => (outcome, left)
      | (.error e, left) =>
        (.proceed, (left.noted [.commandFailed e]).told [.append (.error e.message)]) := by
  simp only [report, bind, StateT.bind, Action.perform]
  cases action.run run with
  | mk result left => cases result <;> rfl

/-- The run in which the request of a line is made: the line has been echoed, and its route noted. -/
def opened (line : String) (run : Run σ) : Run σ :=
  (run.told [echoed line]).noted [route (Text.trim line)]

@[simp] theorem session_opened (line : String) (run : Run σ) :
    (opened line run).session = run.session := rfl

@[simp] theorem host_opened (line : String) (run : Run σ) :
    (opened line run).host = run.host := rfl

@[simp] theorem calls_opened (line : String) (run : Run σ) :
    (opened line run).calls = run.calls ++ [echoed line] := rfl

/-- A turn's outcome, and the last that it tells the surface: an error if the request has failed,
and the prompt unless the session has ended. -/
def finish : Except CommandError Outcome × Run σ → Outcome × Run σ
  | (.ok .proceed, left) => (.proceed, left.told [prompted left.session])
  | (.ok .exit, left) => (.exit, left)
  | (.error e, left) =>
    (.proceed, (left.noted [.commandFailed e]).told
      [.append (.error e.message), prompted left.session])

theorem execute_eq (host : Host σ) (line : String) (run : Run σ) :
    execute host line run =
      if Text.trim line = "" then (.proceed, run.told [echoed line, prompted run.session])
      else finish ((Request.ofLine (Text.trim line)).perform host (opened line run)) := by
  have closing : ∀ (taken : Outcome × Run σ),
      (do if taken.1 = .proceed then showPrompt
          return taken.1 : StateM (Run σ) Outcome) taken.2 =
        if taken.1 = .proceed then (.proceed, taken.2.told [prompted taken.2.session])
        else taken := by
    rintro ⟨_ | _, left⟩ <;> rfl
  simp only [execute, bind, StateT.bind, Run.tell_eq, String.isEmpty_iff]
  by_cases blank : Text.trim line = ""
  · simp only [blank, if_true, echoed]
    refine (closing (.proceed, run.told [echoed ""])).trans ?_
    rw [if_pos rfl, Run.told_told]
    rfl
  · simp only [blank, if_false, Request.dispatch_eq]
    have reported := report_eq ((Request.ofLine (Text.trim line)).action host) (opened line run)
    generalize report ((Request.ofLine (Text.trim line)).action host) = report at reported ⊢
    refine (closing (report (opened line run))).trans ?_
    rw [reported, ← Request.perform]
    generalize (Request.ofLine (Text.trim line)).perform host (opened line run) = performed
    obtain ⟨result, left⟩ := performed
    cases result with
    | ok outcome => cases outcome <;> rfl
    | error e => exact (if_pos rfl).trans (by rw [Run.told_told]; rfl)

@[simp] theorem session_finish (left : Except CommandError Outcome × Run σ) :
    (finish left).2.session = left.2.session := by
  rcases left with ⟨_ | ⟨_ | _⟩, left⟩ <;> rfl

@[simp] theorem host_finish (left : Except CommandError Outcome × Run σ) :
    (finish left).2.host = left.2.host := by
  rcases left with ⟨_ | ⟨_ | _⟩, left⟩ <;> rfl

theorem finish_along {τ : Type} {outer : Host τ} {inner : Host σ} (s : Simulation outer inner)
    (left : Except CommandError Outcome × Run τ) :
    finish (s.along left) = s.along (finish left) := by
  rcases left with ⟨_ | ⟨_ | _⟩, left⟩ <;>
    simp [finish, Simulation.along, s.told, s.noted, s.session]

/-- A turn comes to the same on both hosts of a simulation. -/
theorem execute_view {τ : Type} {outer : Host τ} {inner : Host σ} (s : Simulation outer inner)
    (line : String) (run : Run τ) :
    execute inner line (s.view run) = s.along (execute outer line run) := by
  rw [execute_eq, execute_eq]
  split
  · rw [s.told, s.session]
    rfl
  · rw [opened, s.told, s.noted, s.perform_view, finish_along, opened]

/-- What has been told and noted before makes no difference to a turn. -/
theorem execute_fresh (host : Host σ) (line : String) (run : Run σ) :
    execute host line run =
      (Simulation.behind host run.calls run.log).along (execute host line run.fresh) := by
  rw [← execute_view, Simulation.behind_view]

theorem fst_execute_fresh (host : Host σ) (line : String) (run : Run σ) :
    (execute host line run.fresh).1 = (execute host line run).1 := by
  rw [execute_fresh host line run, Simulation.fst_along]

theorem calls_execute (host : Host σ) (line : String) (run : Run σ) :
    (execute host line run).2.calls = run.calls ++ (execute host line run.fresh).2.calls := by
  rw [execute_fresh host line run]
  rfl

/-! ## What a turn asks -/

/-- What a line asks of the machine, in order. -/
def asked (host : Host σ) (line : String) (run : Run σ) : List HostCall :=
  (execute host.watched line run.watched).2.host.2

theorem execute_watched (host : Host σ) (line : String) (run : Run σ) :
    execute host line run =
      (Simulation.watching host).along (execute host.watched line run.watched) :=
  execute_view (Simulation.watching host) line run.watched

theorem watched_opened (line : String) (run : Run σ) :
    (opened line run).watched = opened line run.watched := rfl

theorem asked_eq (host : Host σ) (line : String) (run : Run σ) :
    asked host line run =
      if Text.trim line = "" then []
      else (Request.ofLine (Text.trim line)).asked host (opened line run) := by
  rw [asked, execute_eq]
  split
  · rfl
  · rw [host_finish, Request.asked, watched_opened]

end Interpreter

/-! ## Turns in a row -/

/-- A line, and what others do to the machine before it is taken. -/
structure Turn (σ : Type) where
  line : String
  meanwhile : σ → σ := id

namespace Turn

/-- The run in which the line is taken. -/
def start (turn : Turn σ) (run : Run σ) : Run σ := { run with host := turn.meanwhile run.host }

def take (host : Host σ) (turn : Turn σ) (run : Run σ) : Outcome × Run σ :=
  Interpreter.execute host turn.line (turn.start run)

/-- Takes turns one after the other, whatever their outcomes. -/
def takeAll (host : Host σ) : List (Turn σ) → Run σ → List Outcome × Run σ
  | [], run => ([], run)
  | turn :: rest, run =>
    ((turn.take host run).1 :: (takeAll host rest (turn.take host run).2).1,
      (takeAll host rest (turn.take host run).2).2)

theorem takeAll_concat (host : Host σ) (turn : Turn σ) :
    ∀ (turns : List (Turn σ)) (run : Run σ),
      takeAll host (turns ++ [turn]) run =
        ((takeAll host turns run).1 ++ [(turn.take host (takeAll host turns run).2).1],
          (turn.take host (takeAll host turns run).2).2)
  | [], _ => by simp only [List.nil_append, takeAll]
  | first :: turns, run => by
    simp only [List.cons_append, takeAll, takeAll_concat host turn turns]

/-- What every turn keeps, all turns keep. -/
theorem takeAll_invariant (host : Host σ) {I : Run σ → Prop}
    (step : ∀ turn run, I run → I (take host turn run).2) :
    ∀ (turns : List (Turn σ)) (run : Run σ), I run → I (takeAll host turns run).2
  | [], _, h => h
  | turn :: turns, run, h => takeAll_invariant host step turns _ (step turn run h)

end Turn

/-! ## A host to try things on -/

/-- Every path leads to an empty directory, and every command line runs well. -/
def Host.bare : Host Unit :=
  { home := none
    isDirectory := fun _ => pure true
    occupied := fun _ => pure true
    createDirectory := fun _ => pure (.ok ())
    listDirectory := fun _ => pure (.ok [])
    launch := fun _ _ => pure (.ok {}) }

def Run.bare : Run Unit := { session := { directory := .root }, host := () }

end ThemedShell
