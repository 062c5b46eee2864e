import ThemedShell.Interpreter

/-!
# Performing actions

An action takes a run to a result and to the run that it leaves. `perform` gives both at once. The
lemmas say what each step of an action does to a run, so that a command can be worked out line by
line: `answer` is what the machine says, `after` is the run once it has been asked, `told` the run
once the surface has been told, and `noted` the run once events have been noted for the log.
-/
namespace ThemedShell

variable {σ α β : Type}

namespace Run

/-- What the machine answers to a question asked now. -/
def answer (run : Run σ) (question : StateM σ α) : α := (question run.host).1

def after (run : Run σ) (question : StateM σ α) : Run σ :=
  { run with host := (question run.host).2 }

def told (run : Run σ) (calls : List SinkCall) : Run σ := { run with calls := run.calls ++ calls }

def noted (run : Run σ) (events : List LogEvent) : Run σ := { run with log := run.log ++ events }

/-- The run at which nothing has been told or noted yet. -/
def fresh (run : Run σ) : Run σ := { session := run.session, host := run.host }

@[simp] theorem session_fresh (run : Run σ) : run.fresh.session = run.session := rfl

@[simp] theorem host_fresh (run : Run σ) : run.fresh.host = run.host := rfl

@[simp] theorem calls_fresh (run : Run σ) : run.fresh.calls = [] := rfl

@[simp] theorem log_fresh (run : Run σ) : run.fresh.log = [] := rfl

@[simp] theorem session_after (run : Run σ) (question : StateM σ α) :
    (run.after question).session = run.session := rfl

@[simp] theorem calls_after (run : Run σ) (question : StateM σ α) :
    (run.after question).calls = run.calls := rfl

@[simp] theorem host_after (run : Run σ) (question : StateM σ α) :
    (run.after question).host = (question run.host).2 := rfl

@[simp] theorem session_told (run : Run σ) (calls : List SinkCall) :
    (run.told calls).session = run.session := rfl

@[simp] theorem host_told (run : Run σ) (calls : List SinkCall) :
    (run.told calls).host = run.host := rfl

@[simp] theorem calls_told (run : Run σ) (calls : List SinkCall) :
    (run.told calls).calls = run.calls ++ calls := rfl

@[simp] theorem told_told (run : Run σ) (calls more : List SinkCall) :
    (run.told calls).told more = run.told (calls ++ more) := by
  simp [told]

@[simp] theorem answer_told (run : Run σ) (calls : List SinkCall) (question : StateM σ α) :
    (run.told calls).answer question = run.answer question := rfl

@[simp] theorem session_noted (run : Run σ) (events : List LogEvent) :
    (run.noted events).session = run.session := rfl

@[simp] theorem host_noted (run : Run σ) (events : List LogEvent) :
    (run.noted events).host = run.host := rfl

@[simp] theorem calls_noted (run : Run σ) (events : List LogEvent) :
    (run.noted events).calls = run.calls := rfl

@[simp] theorem log_noted (run : Run σ) (events : List LogEvent) :
    (run.noted events).log = run.log ++ events := rfl

@[simp] theorem log_after (run : Run σ) (question : StateM σ α) :
    (run.after question).log = run.log := rfl

@[simp] theorem log_told (run : Run σ) (calls : List SinkCall) :
    (run.told calls).log = run.log := rfl

/-- Whether the surface is told first or events are noted first makes no difference. -/
theorem noted_told (run : Run σ) (calls : List SinkCall) (events : List LogEvent) :
    (run.told calls).noted events = (run.noted events).told calls := rfl

theorem tell_eq (calls : List SinkCall) (run : Run σ) : tell calls run = ((), run.told calls) := rfl

end Run

namespace Action

/-- The result of an action and the run that it leaves. -/
def perform (action : Action σ α) (run : Run σ) : Except CommandError α × Run σ := action.run run

@[simp] theorem perform_pure (x : α) (run : Run σ) :
    (pure x : Action σ α).perform run = (.ok x, run) := rfl

@[simp] theorem perform_throw (e : CommandError) (run : Run σ) :
    (throw e : Action σ α).perform run = (.error e, run) := rfl

/-- The rest of an action is performed only if what comes before it has not failed. -/
theorem perform_bind (action : Action σ α) (rest : α → Action σ β) (run : Run σ) :
    (action >>= rest).perform run =
      match action.perform run with
      | (.ok x, run) => (rest x).perform run
      | (.error e, run) => (.error e, run) := by
  show ExceptT.run (action >>= rest) run = _
  rw [ExceptT.run_bind]
  simp only [perform, bind, StateT.bind, pure]
  cases action.run run with
  | mk result run => cases result <;> rfl

@[simp] theorem perform_ask (question : StateM σ α) (run : Run σ) :
    (Action.ask question).perform run = (.ok (run.answer question), run.after question) := rfl

@[simp] theorem perform_tell (calls : List SinkCall) (run : Run σ) :
    (Action.tell calls).perform run = (.ok (), run.told calls) := rfl

@[simp] theorem perform_note (event : LogEvent) (run : Run σ) :
    (Action.note event).perform run = (.ok (), run.noted [event]) := rfl

@[simp] theorem perform_emit (lines : List Line) (run : Run σ) :
    (Action.emit lines).perform run = (.ok (), run.told (lines.map .append)) := rfl

@[simp] theorem perform_session (run : Run σ) :
    (Action.session : Action σ Session).perform run = (.ok run.session, run) := rfl

@[simp] theorem perform_setSession (session : Session) (run : Run σ) :
    (Action.setSession session : Action σ Unit).perform run = (.ok (), { run with session }) := rfl

end Action

end ThemedShell
