import ThemedShell.Proofs.Request

/-!
# Simulations

A simulation shows the runs on one host as runs on another: questions are answered alike on both,
and each step leads to runs that belong together again. What a request comes to is then the same
(`Simulation.perform_view`). This is proved once for all commands; a host that keeps a record of
what it is asked is one use of it, a surface that has been told more before and a log in which more
has been noted are another.
-/
namespace ThemedShell

variable {σ τ α β : Type}

/-- Both questions have the same answer and lead to runs that belong together. -/
def Alike (view : Run τ → Run σ) (question : StateM τ α) (question' : StateM σ α) : Prop :=
  ∀ run, (view run).answer question' = run.answer question ∧
    (view run).after question' = view (run.after question)

/-- Shows the runs on `outer` as runs on `inner`. -/
structure Simulation (outer : Host τ) (inner : Host σ) where
  view : Run τ → Run σ
  home : inner.home = outer.home
  session : ∀ run, (view run).session = run.session
  setSession : ∀ (run : Run τ) (session : Session),
    { view run with session } = view { run with session }
  told : ∀ run calls, (view run).told calls = view (run.told calls)
  noted : ∀ run events, (view run).noted events = view (run.noted events)
  isDirectory : ∀ path, Alike view (outer.isDirectory path) (inner.isDirectory path)
  occupied : ∀ path, Alike view (outer.occupied path) (inner.occupied path)
  createDirectory : ∀ path, Alike view (outer.createDirectory path) (inner.createDirectory path)
  listDirectory : ∀ path, Alike view (outer.listDirectory path) (inner.listDirectory path)
  launch : ∀ commandLine directory,
    Alike view (outer.launch commandLine directory) (inner.launch commandLine directory)

namespace Simulation

variable {outer : Host τ} {inner : Host σ} (s : Simulation outer inner)

/-- A result, with the run that is left shown on the inner host. -/
def along (left : α × Run τ) : α × Run σ := (left.1, s.view left.2)

@[simp] theorem fst_along (left : α × Run τ) : (s.along left).1 = left.1 := rfl

@[simp] theorem session_along (left : α × Run τ) :
    (s.along left).2.session = left.2.session := s.session left.2

/-- The inner action does to what is shown what the outer action does. -/
def Follows (action : Action τ α) (action' : Action σ α) : Prop :=
  ∀ run, action'.perform (s.view run) = s.along (action.perform run)

variable {s}

namespace Follows

theorem pure (x : α) : s.Follows (Pure.pure x) (Pure.pure x) := fun _ => rfl

theorem throw (e : CommandError) :
    s.Follows (MonadExcept.throw e : Action τ α) (MonadExcept.throw e) := fun _ => rfl

theorem session : s.Follows Action.session Action.session := fun run => by
  rw [Action.perform_session, Action.perform_session, s.session]
  rfl

theorem setSession (session : Session) :
    s.Follows (Action.setSession session) (Action.setSession session) := fun run => by
  rw [Action.perform_setSession, Action.perform_setSession, s.setSession]
  rfl

theorem tell (calls : List SinkCall) : s.Follows (Action.tell calls) (Action.tell calls) :=
  fun run => by
    rw [Action.perform_tell, Action.perform_tell, s.told]
    rfl

theorem note (event : LogEvent) : s.Follows (Action.note event) (Action.note event) :=
  fun run => by
    rw [Action.perform_note, Action.perform_note, s.noted]
    rfl

theorem ask {question : StateM τ α} {question' : StateM σ α}
    (h : Alike s.view question question') :
    s.Follows (Action.ask question) (Action.ask question') := fun run => by
  rw [Action.perform_ask, Action.perform_ask, (h run).1, (h run).2]
  rfl

theorem bind {action : Action τ α} {action' : Action σ α} {rest : α → Action τ β}
    {rest' : α → Action σ β} (h : s.Follows action action')
    (hrest : ∀ x, s.Follows (rest x) (rest' x)) :
    s.Follows (action >>= rest) (action' >>= rest') := by
  intro run
  rw [Action.perform_bind, Action.perform_bind, h run]
  cases action.perform run with
  | mk result left =>
    cases result with
    | error e => rfl
    | ok x => exact hrest x left

end Follows

/-! ## Commands -/

variable (s)

theorem enter? (session : Session) (target : Path) :
    Alike s.view (session.enter? outer target) (session.enter? inner target) := by
  intro run
  have alike := s.isDirectory target run
  simp only [Run.answer, Run.after, Session.enter?_eq] at alike ⊢
  exact ⟨by rw [alike.1], alike.2⟩

theorem resolve (argument : String) :
    s.Follows (Command.resolve outer argument) (Command.resolve inner argument) := by
  refine .bind .session fun session => ?_
  rw [s.home]
  split
  · exact .pure _
  · exact .throw _

theorem changeDirectory (argument : String) :
    s.Follows (Command.changeDirectory outer argument)
      (Command.changeDirectory inner argument) := by
  refine .bind .session fun session => ?_
  split
  · exact .bind (.tell _) fun _ => .pure _
  · refine .bind (s.resolve argument) fun target => ?_
    refine .bind (.ask (s.enter? session target)) fun entered => ?_
    split
    · exact .throw _
    · exact .bind (.setSession _) fun _ => .bind (.note _) fun _ => .bind (.tell _) fun _ =>
        .pure _

theorem sortEntries (target : Path) :
    ∀ entries : List (Except SystemError FileName),
      s.Follows (Command.sortEntries outer target entries)
        (Command.sortEntries inner target entries)
  | [] => .pure _
  | .error _ :: _ => .throw _
  | .ok name :: rest => by
    refine .bind (.ask (s.isDirectory _)) fun isDirectory => ?_
    refine .bind (sortEntries target rest) fun listing => ?_
    split <;> exact .pure _

theorem listAt (argument : String) (target : Path) :
    s.Follows (Command.listAt outer argument target) (Command.listAt inner argument target) := by
  refine .bind (.ask (s.isDirectory _)) fun isDirectory => ?_
  split
  · refine .bind (.ask (s.listDirectory _)) fun listed => ?_
    split
    · exact .throw _
    · exact .bind (s.sortEntries target _) fun _ => .bind (.tell _) fun _ => .pure _
  · exact .throw _

theorem list (argument : String) :
    s.Follows (Command.list outer argument) (Command.list inner argument) := by
  refine .bind .session fun session => ?_
  dsimp only
  split
  · exact .bind (.pure _) (s.listAt argument)
  · exact .bind (s.resolve argument) (s.listAt argument)

theorem makeDirectory (argument : String) :
    s.Follows (Command.makeDirectory outer argument) (Command.makeDirectory inner argument) := by
  unfold Command.makeDirectory
  split
  · exact .bind (.tell _) fun _ => .pure _
  · refine .bind .session fun session => .bind (.ask (s.occupied _)) fun occupied => ?_
    split
    · exact .throw _
    · refine .bind (.ask (s.createDirectory _)) fun made => ?_
      split
      · exact .throw _
      · exact .bind (.tell _) fun _ => .pure _

theorem runExternal (commandLine : String) :
    s.Follows (Command.runExternal outer commandLine) (Command.runExternal inner commandLine) := by
  refine .bind .session fun session => .bind (.ask (s.launch _ _)) fun answer => ?_
  split
  · exact .throw _
  · exact .bind (.tell _) fun _ => .pure _

theorem exec (argument : String) :
    s.Follows (Command.exec outer argument) (Command.exec inner argument) := by
  unfold Command.exec
  split
  · exact .bind (.tell _) fun _ => .pure _
  · exact s.runExternal argument

theorem setColor (layer : Layer) (argument : String) :
    s.Follows (Command.setColor layer argument) (Command.setColor layer argument) := by
  unfold Command.setColor
  split
  · exact .throw _
  · exact .bind .session fun _ => .bind (.setSession _) fun _ => .bind (.tell _) fun _ =>
      .bind (.note _) fun _ => .bind (.tell _) fun _ => .pure _

theorem action (request : Request) : s.Follows (request.action outer) (request.action inner) := by
  cases request with
  | external commandLine => exact s.runExternal commandLine
  | builtin b argument =>
    cases b with
    | help => exact .bind (.tell _) fun _ => .pure _
    | changeDirectory => exact s.changeDirectory argument
    | list => exact s.list argument
    | makeDirectory => exact s.makeDirectory argument
    | clear => exact .bind (.tell _) fun _ => .pure _
    | color layer => exact s.setColor layer argument
    | exec => exact s.exec argument
    | exit => exact .pure _

/-- **A request comes to the same on both hosts.** -/
theorem perform_view (request : Request) (run : Run τ) :
    request.perform inner (s.view run) = s.along (request.perform outer run) :=
  s.action request run

/-! ## What has been told and noted before -/

/-- What has been told and noted before makes no difference. -/
def behind (host : Host σ) (calls : List SinkCall) (log : List LogEvent) :
    Simulation host host where
  view run := { run with calls := calls ++ run.calls, log := log ++ run.log }
  home := rfl
  session _ := rfl
  setSession _ _ := rfl
  told _ _ := by simp [Run.told]
  noted _ _ := by simp [Run.noted]
  isDirectory _ _ := ⟨rfl, rfl⟩
  occupied _ _ := ⟨rfl, rfl⟩
  createDirectory _ _ := ⟨rfl, rfl⟩
  listDirectory _ _ := ⟨rfl, rfl⟩
  launch _ _ _ := ⟨rfl, rfl⟩

theorem host_behind (host : Host σ) (calls : List SinkCall) (log : List LogEvent)
    (left : α × Run σ) : ((behind host calls log).along left).2.host = left.2.host := rfl

/-- Every run is a fresh one behind what it has told and noted. -/
theorem behind_view (host : Host σ) (run : Run σ) :
    (behind host run.calls run.log).view run.fresh = run := by
  simp [behind, Run.fresh]

end Simulation

/-- A request comes to the same, whatever has been noted before: only the log that it leaves differs. -/
theorem Request.perform_noted (host : Host σ) (request : Request) (run : Run σ)
    (events : List LogEvent) :
    ∃ log, request.perform host (run.noted events) =
      ((request.perform host run).1, { (request.perform host run).2 with log }) := by
  have before := Simulation.perform_view (.behind host run.calls run.log) request run.fresh
  have behind := Simulation.perform_view
    (.behind host run.calls (run.noted events).log) request run.fresh
  rw [Simulation.behind_view] at before
  have same : (Simulation.behind host run.calls (run.noted events).log).view run.fresh =
      run.noted events := Simulation.behind_view host (run.noted events)
  rw [same] at behind
  rw [behind, before]
  exact ⟨_, rfl⟩

end ThemedShell
