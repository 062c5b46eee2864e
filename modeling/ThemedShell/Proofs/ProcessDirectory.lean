import ThemedShell.Proofs.CurrentDirectory
import ThemedShell.Proofs.NewDirectory

/-!
# The directory of the process

A machine reads a relative path from the directory of the process that asks. No session comes to ask
about one: every question of every turn is about an absolute path. So the same lines come to the same
in processes that are in different directories (`process_directory_does_not_matter`).
-/
namespace ThemedShell

open FileTree (Location hasNul)

variable {σ τ α : Type}

/-! ## Questions about absolute paths -/

/-- The path that a question is about; for a command line, the directory it is run in. -/
def HostCall.path : HostCall → Path
  | .isDirectory path _ | .occupied path _ | .createDirectory path _ | .listDirectory path _
  | .launch _ path _ => path

namespace Path

variable {home : Option Path} {here target : Path} {argument : String}

theorem isAbsolute_resolve (h : here.isAbsolute = true)
    (resolved : resolve home here argument = some target) : target.isAbsolute = true :=
  (isNormal_resolve h resolved).isAbsolute

theorem isAbsolute_entry (h : target.isAbsolute = true) (name : FileName) :
    (target.entry name).isAbsolute = true := isAbsolute_join h _

theorem isAbsolute_listTarget (h : here.isAbsolute = true)
    (named : Command.listTarget home here argument = some target) : target.isAbsolute = true := by
  unfold Command.listTarget at named
  split at named
  · rwa [← Option.some.inj named]
  · exact isAbsolute_resolve h named

end Path

/-- What is asked in an absolute directory is about absolute paths. -/
theorem Request.Asks.isAbsolute {home : Option Path} {here : Path}
    {result : Except CommandError Outcome} {request : Request} {call : HostCall}
    (asks : request.Asks home here result call) (h : here.isAbsolute = true) :
    call.path.isAbsolute = true := by
  cases request with
  | external line =>
    cases call with
    | launch line directory answer =>
      obtain ⟨-, rfl, -⟩ := asks
      exact h
    | _ => cases asks
  | builtin b argument =>
    cases b with
    | changeDirectory =>
      cases call with
      | isDirectory path answer => exact Path.isAbsolute_resolve h asks.1
      | _ => cases asks
    | list =>
      cases call with
      | isDirectory path answer =>
        obtain ⟨target, named, rfl | ⟨name, rfl⟩⟩ := asks
        · exact Path.isAbsolute_listTarget h named
        · exact Path.isAbsolute_entry (Path.isAbsolute_listTarget h named) name
      | listDirectory path answer => exact Path.isAbsolute_listTarget h asks
      | _ => cases asks
    | makeDirectory =>
      cases call with
      | occupied path answer =>
        obtain rfl : path = _ := asks
        exact Path.isAbsolute_join h _
      | createDirectory path answer =>
        obtain ⟨rfl, -⟩ := asks
        exact Path.isAbsolute_join h _
      | _ => cases asks
    | exec =>
      cases call with
      | launch line directory answer =>
        obtain ⟨-, rfl, -⟩ := asks
        exact h
      | _ => cases asks
    | _ => cases call <;> cases asks

theorem Interpreter.isAbsolute_of_asked {host : Host σ} {line : String} {run : Run σ}
    (h : run.session.directory.isAbsolute = true) :
    ∀ call ∈ asked host line run, call.path.isAbsolute = true := by
  intro call hcall
  rw [asked_eq] at hcall
  split at hcall
  · cases hcall
  · generalize Request.ofLine (Text.trim line) = request at hcall
    have asks := (Request.asked_spec host request (opened line run)).1 call hcall
    exact asks.isAbsolute h

/-- A line keeps the current directory absolute. -/
theorem Interpreter.execute_absolute {host : Host σ} (line : String) {run : Run σ}
    (h : run.session.directory.isAbsolute = true) :
    (execute host line run).2.session.directory.isAbsolute = true := by
  rcases execute_directory host line run with same | moves
  · rw [same]
    exact h
  · exact Path.isAbsolute_resolve h moves.resolved

theorem Turn.take_absolute {host : Host σ} (turn : Turn σ) (run : Run σ)
    (h : run.session.directory.isAbsolute = true) :
    (turn.take host run).2.session.directory.isAbsolute = true := by
  have h' : (turn.start run).session.directory.isAbsolute = true := h
  rw [take]
  exact Interpreter.execute_absolute turn.line h'

namespace Session

theorem start?_of_relative {host : Host σ} {directory : Path} (h : directory.isAbsolute = false)
    (s : σ) : start? host directory s = (none, s) := by
  simp only [start?, h]
  rfl

theorem start?_of_absolute {host : Host σ} {directory : Path} (h : directory.isAbsolute = true)
    (s : σ) : start? host directory s =
      (if (host.isDirectory directory s).1 then some { directory } else none,
        (host.isDirectory directory s).2) := by
  simp only [start?, h, if_true, bind, StateT.bind]
  cases host.isDirectory directory s with
  | mk answer t => cases answer <;> rfl

/-- A session starts in an absolute directory. -/
theorem isAbsolute_of_start? {host : Host σ} {directory : Path} {s : σ} {session : Session}
    (h : (start? host directory s).1 = some session) : session.directory.isAbsolute = true := by
  rw [eq_of_start? h]
  by_contra relative
  rw [start?_of_relative (Bool.of_not_eq_true relative)] at h
  cases h

/-- A start asks about absolute paths alone. -/
theorem isAbsolute_of_start?_watched (host : Host σ) (directory : Path) (s : σ) :
    ∀ call ∈ (start? host.watched directory (s, [])).2.2, call.path.isAbsolute = true := by
  intro call hcall
  cases h : directory.isAbsolute with
  | false =>
    rw [start?_of_relative h] at hcall
    cases hcall
  | true =>
    rw [start?_of_absolute h] at hcall
    obtain rfl := List.mem_singleton.1 hcall
    exact h

end Session

/-! ## Hosts that are asked nothing else -/

namespace Host

/-- The same host, but for questions about relative paths: these have the same answer from every such
host, and the machine is not asked. -/
def grounded (host : Host σ) : Host σ where
  home := host.home
  isDirectory path := if path.isAbsolute then host.isDirectory path else pure false
  occupied path := if path.isAbsolute then host.occupied path else pure false
  createDirectory path := if path.isAbsolute then host.createDirectory path else pure (.ok ())
  listDirectory path := if path.isAbsolute then host.listDirectory path else pure (.ok [])
  launch line path := if path.isAbsolute then host.launch line path else pure (.ok {})

theorem home_grounded (host : Host σ) : host.grounded.home = host.home := rfl

variable {host : Host σ} {path : Path} (h : path.isAbsolute = true)
include h

theorem isDirectory_grounded : host.grounded.isDirectory path = host.isDirectory path := if_pos h

theorem occupied_grounded : host.grounded.occupied path = host.occupied path := if_pos h

theorem createDirectory_grounded :
    host.grounded.createDirectory path = host.createDirectory path := if_pos h

theorem listDirectory_grounded :
    host.grounded.listDirectory path = host.listDirectory path := if_pos h

theorem launch_grounded (line : String) :
    host.grounded.launch line path = host.launch line path := if_pos h

end Host

namespace Command

variable {host : Host σ} {target : Path} {run : Run σ}

theorem sortEntries_grounded (h : target.isAbsolute = true) :
    ∀ entries : List (Except SystemError FileName),
      sortEntries host.grounded target entries = sortEntries host target entries
  | [] => rfl
  | .error _ :: _ => rfl
  | .ok name :: rest => by
    rw [sortEntries, sortEntries, sortEntries_grounded h rest,
      Host.isDirectory_grounded (Path.isAbsolute_entry h name)]

theorem listAt_grounded (h : target.isAbsolute = true) (argument : String) :
    listAt host.grounded argument target = listAt host argument target := by
  simp only [listAt, Host.isDirectory_grounded h, Host.listDirectory_grounded h,
    sortEntries_grounded h]

theorem changeDirectory_grounded (h : run.session.directory.isAbsolute = true) (argument : String) :
    (changeDirectory host.grounded argument).perform run =
      (changeDirectory host argument).perform run := by
  rw [perform_changeDirectory, perform_changeDirectory, Host.home_grounded]
  split
  · rfl
  · split
    · rfl
    · next target resolved => rw [Host.isDirectory_grounded (Path.isAbsolute_resolve h resolved)]

theorem list_grounded (h : run.session.directory.isAbsolute = true) (argument : String) :
    (list host.grounded argument).perform run = (list host argument).perform run := by
  rw [perform_list, perform_list, Host.home_grounded]
  split
  · rfl
  · next target named => rw [listAt_grounded (Path.isAbsolute_listTarget h named)]

theorem makeDirectory_grounded (h : run.session.directory.isAbsolute = true) (argument : String) :
    (makeDirectory host.grounded argument).perform run =
      (makeDirectory host argument).perform run := by
  have joined := Path.isAbsolute_join h (.ofString argument)
  rw [perform_makeDirectory, perform_makeDirectory]
  dsimp only
  rw [Host.occupied_grounded joined, Host.createDirectory_grounded joined]

theorem runExternal_grounded (h : run.session.directory.isAbsolute = true) (commandLine : String) :
    (runExternal host.grounded commandLine).perform run =
      (runExternal host commandLine).perform run := by
  rw [perform_runExternal, perform_runExternal, Host.launch_grounded h]

end Command

/-- In an absolute directory, a request is the same with a host that leaves relative paths alone. -/
theorem Request.perform_grounded {host : Host σ} {run : Run σ}
    (h : run.session.directory.isAbsolute = true) (request : Request) :
    request.perform host.grounded run = request.perform host run := by
  cases request with
  | external commandLine => exact Command.runExternal_grounded h commandLine
  | builtin b argument =>
    cases b with
    | changeDirectory => exact Command.changeDirectory_grounded h argument
    | list => exact Command.list_grounded h argument
    | makeDirectory => exact Command.makeDirectory_grounded h argument
    | exec =>
      show (Command.exec host.grounded argument).perform run =
        (Command.exec host argument).perform run
      rw [Command.perform_exec, Command.perform_exec, Command.runExternal_grounded h]
    | _ => rfl

theorem Interpreter.execute_grounded {host : Host σ} {run : Run σ}
    (h : run.session.directory.isAbsolute = true) (line : String) :
    execute host.grounded line run = execute host line run := by
  rw [execute_eq, execute_eq, Request.perform_grounded]
  exact h

/-! ## Other processes -/

/-- What the first question does, the second one does in the states that `view` shows. -/
def Echoes (view : σ → τ) (question : StateM σ α) (question' : StateM τ α) : Prop :=
  ∀ s, question' (view s) = ((question s).1, view (question s).2)

/-- `other` is the same machine in the eyes of another process: what `host` answers and does about
absolute paths, `other` answers and does. -/
structure Host.SeenAs (host : Host σ) (other : Host τ) (view : σ → τ) : Prop where
  home : other.home = host.home
  isDirectory : ∀ path, path.isAbsolute = true →
    Echoes view (host.isDirectory path) (other.isDirectory path)
  occupied : ∀ path, path.isAbsolute = true →
    Echoes view (host.occupied path) (other.occupied path)
  createDirectory : ∀ path, path.isAbsolute = true →
    Echoes view (host.createDirectory path) (other.createDirectory path)
  listDirectory : ∀ path, path.isAbsolute = true →
    Echoes view (host.listDirectory path) (other.listDirectory path)
  launch : ∀ line path, path.isAbsolute = true →
    Echoes view (host.launch line path) (other.launch line path)

/-- The run as it is in the other process: with the same session, and the surface has been told the
same. -/
def Run.seen (view : σ → τ) (run : Run σ) : Run τ := { run with host := view run.host }

theorem Run.seen_watched (view : σ → τ) (run : Run σ) :
    run.watched.seen (Prod.map view id) = (run.seen view).watched := rfl

theorem Run.record_seen (view : σ → τ) (run : Run (σ × List HostCall)) :
    (run.seen (Prod.map view id)).host.2 = run.host.2 := rfl

theorem Echoes.alike {view : σ → τ} {path : Path} {question : StateM σ α} {question' : StateM τ α}
    (h : path.isAbsolute = true → Echoes view question question') (fixed : α) :
    Alike (Run.seen view) (if path.isAbsolute then question else pure fixed)
      (if path.isAbsolute then question' else pure fixed) := by
  intro run
  split
  · next absolute =>
    have := h absolute run.host
    exact ⟨congrArg Prod.fst this,
      congrArg (fun host => { run with host }) (congrArg Prod.snd this)⟩
  · exact ⟨rfl, rfl⟩

theorem Echoes.note {view : σ → τ} {question : StateM σ α} {question' : StateM τ α}
    (h : Echoes view question question') (call : α → HostCall) :
    Echoes (Prod.map view id) (Host.note call question) (Host.note call question') := by
  rintro ⟨s, record⟩
  simp only [Host.note, Prod.map, h s, id_eq]

namespace Host.SeenAs

variable {host : Host σ} {other : Host τ} {view : σ → τ} (seen : host.SeenAs other view)
include seen

/-- A watched host is seen with the same record. -/
theorem watched : host.watched.SeenAs other.watched (Prod.map view id) where
  home := seen.home
  isDirectory path h := (seen.isDirectory path h).note _
  occupied path h := (seen.occupied path h).note _
  createDirectory path h := (seen.createDirectory path h).note _
  listDirectory path h := (seen.listDirectory path h).note _
  launch line path h := (seen.launch line path h).note _

/-- Both processes make the same of questions, if relative paths are left alone. -/
def simulation : Simulation host.grounded other.grounded where
  view := Run.seen view
  home := seen.home
  session _ := rfl
  setSession _ _ := rfl
  told _ _ := rfl
  noted _ _ := rfl
  isDirectory path := Echoes.alike (seen.isDirectory path) _
  occupied path := Echoes.alike (seen.occupied path) _
  createDirectory path := Echoes.alike (seen.createDirectory path) _
  listDirectory path := Echoes.alike (seen.listDirectory path) _
  launch line path := Echoes.alike (seen.launch line path) _

theorem start? (directory : Path) :
    Echoes view (Session.start? host directory) (Session.start? other directory) := by
  intro s
  cases h : directory.isAbsolute with
  | false => rw [Session.start?_of_relative h, Session.start?_of_relative h]
  | true => rw [Session.start?_of_absolute h, Session.start?_of_absolute h,
      seen.isDirectory directory h s]

theorem execute {run : Run σ} (h : run.session.directory.isAbsolute = true) (line : String) :
    Interpreter.execute other line (run.seen view) =
      ((Interpreter.execute host line run).1, (Interpreter.execute host line run).2.seen view) := by
  have h' : (run.seen view).session.directory.isAbsolute = true := h
  calc Interpreter.execute other line (run.seen view)
      = Interpreter.execute other.grounded line (run.seen view) :=
        (Interpreter.execute_grounded h' line).symm
    _ = seen.simulation.along (Interpreter.execute host.grounded line run) :=
        Interpreter.execute_view seen.simulation line run
    _ = seen.simulation.along (Interpreter.execute host line run) := by
        rw [Interpreter.execute_grounded h]

theorem asked {run : Run σ} (h : run.session.directory.isAbsolute = true) (line : String) :
    Interpreter.asked other line (run.seen view) = Interpreter.asked host line run := by
  have watched : run.watched.session.directory.isAbsolute = true := h
  rw [Interpreter.asked, ← Run.seen_watched, seen.watched.execute watched line, Run.record_seen,
    Interpreter.asked]

end Host.SeenAs

namespace Turn

/-- The same line, and others do the same to the machine before it. -/
structure SeenAs (view : σ → τ) (turn : Turn σ) (turn' : Turn τ) : Prop where
  line : turn'.line = turn.line
  meanwhile : ∀ s, turn'.meanwhile (view s) = view (turn.meanwhile s)

variable {host : Host σ} {other : Host τ} {view : σ → τ}

theorem SeenAs.start {turn : Turn σ} {turn' : Turn τ} (same : turn.SeenAs view turn')
    (run : Run σ) : turn'.start (run.seen view) = (turn.start run).seen view :=
  congrArg (fun host => { run with host }) (same.meanwhile run.host)

theorem SeenAs.take {turn : Turn σ} {turn' : Turn τ} (same : turn.SeenAs view turn')
    (seen : host.SeenAs other view) {run : Run σ} (h : run.session.directory.isAbsolute = true) :
    turn'.take other (run.seen view) =
      ((turn.take host run).1, (turn.take host run).2.seen view) := by
  have h' : (turn.start run).session.directory.isAbsolute = true := h
  rw [Turn.take, same.start, same.line, seen.execute h']
  rfl

theorem SeenAs.asked {turn : Turn σ} {turn' : Turn τ} (same : turn.SeenAs view turn')
    (seen : host.SeenAs other view) {run : Run σ} (h : run.session.directory.isAbsolute = true) :
    Interpreter.asked other turn'.line (turn'.start (run.seen view)) =
      Interpreter.asked host turn.line (turn.start run) := by
  have h' : (turn.start run).session.directory.isAbsolute = true := h
  rw [same.start, same.line, seen.asked h']

/-- Step by step, both processes stay together. -/
theorem takeAll_seen (seen : host.SeenAs other view) :
    ∀ {turns : List (Turn σ)} {turns' : List (Turn τ)} {run : Run σ},
      List.Forall₂ (SeenAs view) turns turns' → run.session.directory.isAbsolute = true →
      takeAll other turns' (run.seen view) =
        ((takeAll host turns run).1, (takeAll host turns run).2.seen view) := by
  intro turns turns' run same absolute
  induction same generalizing run with
  | nil => rfl
  | cons first _ ih =>
    rw [takeAll, takeAll, first.take seen absolute, ih (take_absolute _ _ absolute)]

end Turn

/-! ## Machines -/

namespace FileTree

variable {path : Path} (h : path.isAbsolute = true) (root : Node) (base base' : Location)
include h

theorem walk_base (follow : Bool) : walk root base path follow = walk root base' path follow := by
  rw [walk_of_isAbsolute h, walk_of_isAbsolute h]

theorem find_base (follow : Bool) : find root base path follow = find root base' path follow := by
  rw [find, find, locate, locate, walk_base h root base base']

theorem createDirectory_base :
    createDirectory root base path = createDirectory root base' path := by
  rw [createDirectory, createDirectory, walk_base (isAbsolute_dropLastSlashes h) root base base']

end FileTree

namespace Machine

/-- The machine as a process sees it that is in another directory. -/
def seenFrom (there : Location) (m : Machine) : Machine := { m with here := there }

theorem root_seenFrom (there : Location) (m : Machine) : (m.seenFrom there).root = m.root := rfl

theorem here_seenFrom (there : Location) (m : Machine) : (m.seenFrom there).here = there := rfl

/-- A machine answers questions about absolute paths alike wherever a process is, if this holds of
what runs the command lines. -/
theorem seenAs_seenFrom (home : Option Path) {runner : Runner Machine} (there : Location)
    (launch : ∀ line path, path.isAbsolute = true →
      Echoes (seenFrom there) (runner line path) (runner line path)) :
    (host home runner).SeenAs (host home runner) (seenFrom there) where
  home := rfl
  isDirectory path h m := by
    have same := FileTree.find_base h m.root there m.here true
    show (!hasNul path && FileTree.isDirectoryAt m.root there path, m.seenFrom there) =
      (!hasNul path && FileTree.isDirectoryAt m.root m.here path, m.seenFrom there)
    rw [FileTree.isDirectoryAt, same, FileTree.isDirectoryAt]
  occupied path h m := by
    have same := FileTree.find_base h m.root there m.here false
    show (!hasNul path && FileTree.isOccupied m.root there path, m.seenFrom there) =
      (!hasNul path && FileTree.isOccupied m.root m.here path, m.seenFrom there)
    rw [FileTree.isOccupied, same, FileTree.isOccupied]
  createDirectory path h m := by
    have same := FileTree.createDirectory_base h m.root there m.here
    show Machine.createDirectory path (m.seenFrom there) =
      ((Machine.createDirectory path m).1, (Machine.createDirectory path m).2.seenFrom there)
    rw [createDirectory_eq, createDirectory_eq, root_seenFrom, here_seenFrom, same]
    split
    · rfl
    · cases FileTree.createDirectory m.root m.here path <;> rfl
  listDirectory path h m := by
    have same := FileTree.find_base h m.root there m.here true
    show Machine.listDirectory path (m.seenFrom there) =
      ((Machine.listDirectory path m).1, (Machine.listDirectory path m).2.seenFrom there)
    rw [listDirectory_eq, listDirectory_eq, root_seenFrom, here_seenFrom, FileTree.listDirectory,
      same, FileTree.listDirectory]
  launch := launch

end Machine

/-! ## Sessions in two processes -/

/-- **The directory of the process does not matter.** A session asks the machine about absolute paths
alone, at its start and in every turn after it. So let another process see the same machine, as far
as absolute paths go, and take the same lines while the same is done to the machine meanwhile. Then
the session starts there too, all turns have the same outcomes, the session and what the surface has
been told are the same, and each turn has asked the same and run the same command lines. -/
theorem process_directory_does_not_matter (host : Host σ) (directory : Path) (s : σ) :
    (∀ call ∈ (Session.start? host.watched directory (s, [])).2.2, call.path.isAbsolute = true) ∧
    ∀ first : Run σ, (Session.start? host directory s).1 = some first.session →
      (∀ (turns : List (Turn σ)) (turn : Turn σ),
        let before := (Turn.takeAll host turns first).2
        ∀ call ∈ Interpreter.asked host turn.line (turn.start before),
          call.path.isAbsolute = true) ∧
      ∀ {τ : Type} (other : Host τ) (view : σ → τ), host.SeenAs other view →
        (Session.start? other directory (view s)).1 = some first.session ∧
        ∀ (turns : List (Turn σ)) (turns' : List (Turn τ)) (turn : Turn σ) (turn' : Turn τ),
          List.Forall₂ (Turn.SeenAs view) turns turns' → turn.SeenAs view turn' →
          let before := Turn.takeAll host turns first
          let before' := Turn.takeAll other turns' (first.seen view)
          before'.1 = before.1 ∧ before'.2.session = before.2.session ∧
          before'.2.calls = before.2.calls ∧ before'.2.host = view before.2.host ∧
          Interpreter.asked other turn'.line (turn'.start before'.2) =
            Interpreter.asked host turn.line (turn.start before.2) := by
  refine ⟨Session.isAbsolute_of_start?_watched host directory s, fun first started => ?_⟩
  have absolute := Session.isAbsolute_of_start? started
  have stays : ∀ turns, (Turn.takeAll host turns first).2.session.directory.isAbsolute = true :=
    fun turns => Turn.takeAll_invariant host Turn.take_absolute turns first absolute
  refine ⟨fun turns turn => Interpreter.isAbsolute_of_asked (stays turns), ?_⟩
  intro τ other view seen
  refine ⟨by rw [seen.start?]; exact started, ?_⟩
  intro turns turns' turn turn' same last
  have absolute' := stays turns
  rw [Turn.takeAll_seen seen same absolute]
  generalize Turn.takeAll host turns first = before at absolute' ⊢
  refine ⟨rfl, rfl, rfl, rfl, ?_⟩
  exact last.asked seen absolute'

theorem Session.start?_small :
    (Session.start? Machine.quietHost .root .small).1 = some Run.small.session := by
  have root : Machine.small.LeadsTo .root [] _ :=
    ⟨by decide, (FileTree.locate_eq_ok Machine.linkless_small rfl).2 (by decide +kernel), rfl⟩
  have found : (Machine.quietHost.isDirectory .root .small).1 = true := root.isDirectory
  rw [Session.start?_of_absolute rfl, found]
  rfl

/-- Turns of two processes, one at the root and one in `/srv`, which find different things by the
name `www`. -/
theorem in_two_processes :
    let lines : List (Turn Machine) := [{ line := "cd srv" }, { line := "mkdir www/logs" }]
    let last : Turn Machine := { line := "ls www" }
    let there := [Text.encode "srv"]
    let before := Turn.takeAll Machine.quietHost lines .small
    let before' := Turn.takeAll Machine.quietHost lines (Run.small.seen (Machine.seenFrom there))
    (Machine.isDirectory (.ofString "www") .small).1 = false ∧
      (Machine.isDirectory (.ofString "www") (Machine.small.seenFrom there)).1 = true ∧
      (Session.start? Machine.quietHost .root .small).1 = some Run.small.session ∧
      Machine.quietHost.SeenAs Machine.quietHost (Machine.seenFrom there) ∧
      before'.1 = before.1 ∧ before'.2.session = before.2.session ∧
      before'.2.calls = before.2.calls ∧
      Interpreter.asked Machine.quietHost last.line (last.start before'.2) =
        Interpreter.asked Machine.quietHost last.line (last.start before.2) := by
  intro lines last there before before'
  have started := Session.start?_small
  have seen : Machine.quietHost.SeenAs Machine.quietHost (Machine.seenFrom there) :=
    Machine.seenAs_seenFrom none there fun _ _ _ _ => rfl
  have same : ∀ line, Turn.SeenAs (Machine.seenFrom there) ⟨line, id⟩ ⟨line, id⟩ := fun line =>
    ⟨rfl, fun _ => rfl⟩
  have linkless := Machine.linkless_small
  have unfound : (Machine.isDirectory (.ofString "www") .small).1 = false := by
    refine Bool.of_not_eq_true fun found => ?_
    obtain ⟨-, location, located, -⟩ := Machine.isDirectory_eq_true.1 found
    have walked := ((FileTree.locate_of_relative linkless (by decide) (by decide) (by decide)
      (by decide)).1 located).1
    have nothing : (FileTree.steps (.ofString "www")).foldlM Machine.small.root.step?
        Machine.small.here.reverse = none := by decide +kernel
    rw [nothing] at walked
    cases walked
  have www : (Machine.small.seenFrom there).LeadsTo (.ofString "www")
      [Text.encode "srv", Text.encode "www"] [] :=
    ⟨by decide, (FileTree.locate_of_relative linkless (by decide) (by decide) (by decide)
      (by decide)).2 (by decide +kernel), rfl⟩
  have all := (process_directory_does_not_matter Machine.quietHost .root .small).2 .small started
  have both := (all.2 Machine.quietHost (Machine.seenFrom there) seen).2 lines lines last last
    (.cons (same _) (.cons (same _) .nil)) (same _)
  exact ⟨unfound, www.isDirectory, started, seen, both.1, both.2.1, both.2.2.1, both.2.2.2.2⟩

end ThemedShell
