import ThemedShell.Proofs.ProcessDirectory

/-!
# Operations on a session

A session is not only worked by lines. Whoever holds it may make a request of their own, or enter a
directory without any command. Commands look for directories by absolute paths, but whoever enters one
may give any path under which the machine finds it: entering a relative path is the only way in which
the current directory comes to be relative (`only_entering_makes_relative`).
-/
namespace ThemedShell

variable {σ : Type}

/-- What can be done to a session. -/
inductive Operation (σ : Type) where
  /-- Moves the session to the directory at the path, as it is given. -/
  | enter (path : Path)
  | make (request : Request)
  | take (line : String)
  /-- Others work on the machine. -/
  | meanwhile (change : σ → σ)

namespace Operation

def perform (host : Host σ) : Operation σ → Run σ → Run σ
  | .enter path, run =>
    { run.after (run.session.enter? host path) with
      session := (run.answer (run.session.enter? host path)).getD run.session }
  | .make request, run => (request.perform host run).2
  | .take line, run => (Interpreter.execute host line run).2
  | .meanwhile change, run => { run with host := change run.host }

/-- One operation after the other. -/
def performAll (host : Host σ) (operations : List (Operation σ)) (run : Run σ) : Run σ :=
  operations.foldl (fun run operation => operation.perform host run) run

variable {host : Host σ} {run : Run σ}

/-- Entering takes the path as it is given, if the machine finds a directory there. -/
theorem directory_enter (path : Path) :
    ((enter path).perform host run).session.directory =
      if run.answer (host.isDirectory path) then path else run.session.directory := by
  have answered : run.answer (run.session.enter? host path) =
      if run.answer (host.isDirectory path) then some { run.session with directory := path }
      else none := congrArg Prod.fst (Session.enter?_eq host run.session path run.host)
  rw [perform, answered]
  split <;> rfl

end Operation

/-- In an absolute directory, a request leads to an absolute one. -/
theorem Request.perform_absolute (host : Host σ) (request : Request) {run : Run σ}
    (h : run.session.directory.isAbsolute = true) :
    (request.perform host run).2.session.directory.isAbsolute = true := by
  have effect := perform_effect host request run
  generalize request.perform host run = left at effect ⊢
  obtain ⟨result, left⟩ := left
  cases effect with
  | moved target named resolved found => exact Path.isAbsolute_resolve h resolved
  | _ => exact h

namespace Operation

variable {host : Host σ} {run : Run σ}

/-- **What one operation can do.** It leads out of the absolute directories only by entering a
relative path, at which the machine finds a directory. -/
theorem perform_relative_iff (h : run.session.directory.isAbsolute = true)
    (operation : Operation σ) :
    (operation.perform host run).session.directory.isAbsolute = false ↔
      ∃ path, operation = .enter path ∧ path.isAbsolute = false ∧
        run.answer (host.isDirectory path) = true := by
  cases operation with
  | enter path =>
    rw [directory_enter]
    by_cases found : run.answer (host.isDirectory path) = true
    · simp [found]
    · simp [found, h]
  | make request =>
    rw [perform, Request.perform_absolute host request h]
    simp
  | take line =>
    rw [perform, Interpreter.execute_absolute line h]
    simp
  | meanwhile change =>
    rw [perform, h]
    simp

/-- Operations that enter absolute paths alone keep the directory absolute. -/
theorem performAll_absolute :
    ∀ {operations : List (Operation σ)} {run : Run σ},
      (∀ path, enter path ∈ operations → path.isAbsolute = true) →
      run.session.directory.isAbsolute = true →
      (performAll host operations run).session.directory.isAbsolute = true
  | [], _, _, h => h
  | operation :: operations, run, entered, h => by
    have next : (operation.perform host run).session.directory.isAbsolute = true := by
      by_contra left
      obtain ⟨path, rfl, relative, -⟩ :=
        (perform_relative_iff h operation).1 (Bool.of_not_eq_true left)
      simp [entered path List.mem_cons_self] at relative
    show (performAll host operations
      (operation.perform host run)).session.directory.isAbsolute = true
    exact performAll_absolute
      (fun path hpath => entered path (List.mem_cons_of_mem _ hpath)) next

end Operation

/-- **Only entering makes the directory relative.** A session starts in an absolute directory and
stays in absolute ones as long as the paths entered are absolute, whatever requests are made, lines
taken and things done to the machine. Where the directory is absolute, what makes it relative is to
enter a relative path at which the machine finds a directory, and nothing else. -/
theorem only_entering_makes_relative (host : Host σ) (directory : Path) (s : σ) (first : Run σ)
    (started : (Session.start? host directory s).1 = some first.session)
    (operations : List (Operation σ)) :
    let before := Operation.performAll host operations first
    ((∀ path, .enter path ∈ operations → path.isAbsolute = true) →
      before.session.directory.isAbsolute = true) ∧
    (before.session.directory.isAbsolute = true → ∀ operation : Operation σ,
      ((operation.perform host before).session.directory.isAbsolute = false ↔
        ∃ path, operation = .enter path ∧ path.isAbsolute = false ∧
          before.answer (host.isDirectory path) = true)) := by
  have absolute := Session.isAbsolute_of_start? started
  exact ⟨fun entered => Operation.performAll_absolute entered absolute,
    fun h operation => Operation.perform_relative_iff h operation⟩

/-- A line, a path that is entered and a request; then a relative path is entered. -/
theorem relative_after_three :
    let operations : List (Operation Unit) :=
      [.take "cd srv//www", .enter (.ofString "/srv/docs"),
        .make (.builtin .changeDirectory "../www")]
    let before := Operation.performAll .bare operations .bare
    (Session.start? Host.bare .root ()).1 = some Run.bare.session ∧
      before.session.directory.isAbsolute = true ∧
      ((Operation.enter (.ofString "docs")).perform .bare before).session.directory.isAbsolute =
        false := by
  intro operations before
  have started : (Session.start? Host.bare .root ()).1 = some Run.bare.session := rfl
  have all := only_entering_makes_relative Host.bare .root () .bare started operations
  have entered : ∀ path, Operation.enter path ∈ operations → path.isAbsolute = true := by
    intro path hpath
    obtain rfl : path = .ofString "/srv/docs" := by simpa [operations] using hpath
    decide
  have absolute := all.1 entered
  exact ⟨started, absolute, (all.2 absolute _).2 ⟨_, rfl, by decide, rfl⟩⟩

/-- The directory of a session that has started at the root is relative after a dot has been
entered. -/
theorem dot_is_entered :
    (Session.start? Machine.quietHost .root .small).1 = some Run.small.session ∧
      ((Operation.enter (.ofString ".")).perform Machine.quietHost .small).session.directory =
        .ofString "." ∧
      (Path.ofString ".").isAbsolute = false ∧
      ¬ ∀ operations : List (Operation Machine),
        (Operation.performAll Machine.quietHost operations
          .small).session.directory.isAbsolute = true := by
  have dot : Machine.small.LeadsTo (.ofString ".") [] _ :=
    ⟨by decide, (FileTree.locate_of_relative Machine.linkless_small (by decide) (by decide)
      (by decide) (by decide)).2 (by decide +kernel), rfl⟩
  have found : Run.small.answer (Machine.quietHost.isDirectory (.ofString ".")) = true :=
    dot.isDirectory
  have entered : ((Operation.enter (.ofString ".")).perform Machine.quietHost
      .small).session.directory = .ofString "." := by
    rw [Operation.directory_enter, if_pos found]
  have relative : (Path.ofString ".").isAbsolute = false := by decide
  refine ⟨Session.start?_small, entered, relative, ?_⟩
  intro always
  have absolute := always [.enter (.ofString ".")]
  rw [Operation.performAll, List.foldl_cons, List.foldl_nil, entered] at absolute
  simp [relative] at absolute

end ThemedShell
