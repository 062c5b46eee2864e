import ThemedShell.Program
import ThemedShell.Proofs.NormalPath
import ThemedShell.Proofs.Turn

/-!
# The current directory

The current directory is normal from the start to the end of every series of turns, and only `cd`
with an argument moves it: to a path at which, in that very turn, the machine has found a directory
(`directory_stays_normal`).
-/
namespace ThemedShell

variable {σ : Type}

/-! ## Turns -/

namespace Interpreter

/-- The line is `cd` with an argument that leads to `target`, where the machine says, asked in this
turn, that there is a directory. -/
structure MovesTo (host : Host σ) (line : String) (run : Run σ) (target : Path) : Prop where
  verb : (Submission.parse line).verb = "cd"
  argument : (Submission.parse line).argument ≠ ""
  resolved : Path.resolve host.home run.session.directory (Submission.parse line).argument =
    some target
  found : HostCall.isDirectory target true ∈ asked host line run

/-- A turn leaves the current directory alone or moves it to a directory that it has found. -/
theorem execute_directory (host : Host σ) (line : String) (run : Run σ) :
    (execute host line run).2.session.directory = run.session.directory ∨
      MovesTo host line run (execute host line run).2.session.directory := by
  -- The watched run has the same session, and its record holds the answer.
  rw [execute_watched, Simulation.session_along]
  by_cases blank : Text.trim line = ""
  · rw [execute_eq, if_pos blank]
    exact .inl rfl
  · have record : asked host line run = (execute host.watched line run.watched).2.host.2 := rfl
    have effect := Request.perform_effect host.watched (Request.ofLine (Text.trim line))
      (opened line run.watched)
    rw [execute_eq, if_neg blank, host_finish] at record
    rw [execute_eq, if_neg blank, session_finish]
    generalize hrequest : Request.ofLine (Text.trim line) = request at *
    generalize request.perform host.watched (opened line run.watched) = left at *
    obtain ⟨result, left⟩ := left
    cases effect with
    | moved target named resolved found =>
      obtain ⟨verb, rfl⟩ := Request.verb_of_builtin hrequest
      refine .inr ⟨verb, fun empty => ?_, resolved, ?_⟩
      · rw [(Submission.isBlankText_argument line).2 empty] at named
        exact absurd named (by decide)
      · have answer : (host.isDirectory target run.host).1 = true := found
        rw [record, ← answer]
        exact List.mem_append_right [] (List.mem_singleton_self _)
    | _ => exact .inl rfl

end Interpreter

/-! ## The start -/

namespace Program

theorem isNormal_startDirectory {home : Option Path} {here directory : Path} {flags : Flags}
    (h : here.IsNormal) (start : startDirectory home here flags = some directory) :
    directory.IsNormal := by
  unfold startDirectory at start
  split at start
  · exact Path.isNormal_resolve h.isAbsolute start
  · exact Option.some.inj start ▸ h

theorem isNormal_initialSession {host : Host σ} {here : Path} {flags : Flags} {s : σ}
    {session : Session} (h : here.IsNormal)
    (start : (initialSession host here flags s).1 = .ok session) : session.directory.IsNormal := by
  unfold initialSession at start
  cases hdirectory : startDirectory host.home here flags with
  | none =>
    rw [hdirectory] at start
    cases start
  | some directory =>
    rw [hdirectory] at start
    simp only [bind, StateT.bind] at start
    cases hstart : Session.start? host directory s with
    | mk started t =>
      rw [hstart] at start
      cases started with
      | none => cases start
      | some started =>
        have hstarted := Session.eq_of_start? (congrArg Prod.fst hstart)
        rw [← Except.ok.inj start, hstarted]
        exact isNormal_startDirectory h hdirectory

end Program

namespace Turn

theorem take_directory (host : Host σ) (turn : Turn σ) (run : Run σ) :
    (turn.take host run).2.session.directory = run.session.directory ∨
      Interpreter.MovesTo host turn.line (turn.start run)
        (turn.take host run).2.session.directory := by
  rw [take]
  exact Interpreter.execute_directory host turn.line (turn.start run)

/-- A turn keeps the current directory normal. -/
theorem take_normal {host : Host σ} (turn : Turn σ) (run : Run σ)
    (h : run.session.directory.IsNormal) : (turn.take host run).2.session.directory.IsNormal := by
  rcases take_directory host turn run with same | moves
  · rw [same]
    exact h
  · exact Path.isNormal_resolve h.isAbsolute moves.resolved

end Turn

/-- **The current directory stays normal.** A session that starts from a normal directory has a
normal one after every turn; a turn that has changed it is `cd` with an argument, and the machine
has found a directory there in that turn. -/
theorem directory_stays_normal (host : Host σ) :
    (∀ (here : Path) (flags : Flags) (s : σ) (session : Session), here.IsNormal →
      (Program.initialSession host here flags s).1 = .ok session → session.directory.IsNormal) ∧
    ∀ (turns : List (Turn σ)) (turn : Turn σ) (first : Run σ), first.session.directory.IsNormal →
      let before := (Turn.takeAll host turns first).2
      let after := (Turn.takeAll host (turns ++ [turn]) first).2
      before.session.directory.IsNormal ∧ after.session.directory.IsNormal ∧
      (after.session.directory ≠ before.session.directory →
        (Submission.parse turn.line).verb = "cd" ∧ (Submission.parse turn.line).argument ≠ "" ∧
        HostCall.isDirectory after.session.directory true ∈
          Interpreter.asked host turn.line (turn.start before)) := by
  refine ⟨fun here flags s session h start => Program.isNormal_initialSession h start,
    fun turns turn first h => ?_⟩
  rw [Turn.takeAll_concat]
  have hbefore := Turn.takeAll_invariant host Turn.take_normal turns first h
  generalize (Turn.takeAll host turns first).2 = before at *
  dsimp only
  refine ⟨hbefore, Turn.take_normal turn before hbefore, fun moved => ?_⟩
  rcases Turn.take_directory host turn before with same | moves
  · exact absurd same moved
  · exact ⟨moves.verb, moves.argument, moves.found⟩

/-- A path in a roundabout way of writing. -/
theorem moved_to_docs :
    let turn : Turn Unit := { line := "cd .././/docs/" }
    Path.root.IsNormal ∧ (Turn.takeAll .bare ([] ++ [turn]) .bare).2.session.directory ≠ .root ∧
      (Turn.takeAll .bare ([] ++ [turn]) .bare).2.session.directory.IsNormal ∧
      HostCall.isDirectory (Turn.takeAll .bare ([] ++ [turn]) .bare).2.session.directory true ∈
        Interpreter.asked .bare turn.line (turn.start (Turn.takeAll .bare [] .bare).2) := by
  intro turn
  have normal : Path.root.IsNormal := ⟨[], by simp, rfl⟩
  have moved : (Turn.takeAll .bare ([] ++ [turn]) .bare).2.session.directory ≠ .root := by
    decide +kernel
  have stays := (directory_stays_normal Host.bare).2 [] turn .bare normal
  exact ⟨normal, moved, stays.2.1, (stays.2.2 moved).2.2⟩

end ThemedShell
