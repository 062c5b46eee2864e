import ThemedShell.Proofs.Simulation

/-!
# Watching what is asked

A watched host answers as the host does and keeps a record of every question with its answer.
Watching is a simulation: without the record, runs on both hosts are the same. So the record is what
a request asks of the machine.
-/
namespace ThemedShell

/-- A question to the machine, with the answer to it. -/
inductive HostCall where
  | isDirectory (path : Path) (answer : Bool)
  | occupied (path : Path) (answer : Bool)
  | createDirectory (path : Path) (answer : Except SystemError Unit)
  | listDirectory (path : Path) (answer : Except SystemError (List (Except SystemError FileName)))
  | launch (commandLine : String) (directory : Path)
    (answer : Except External.Error External.Result)

namespace HostCall

/-- A directory has been made or a command line has been run. -/
def Acts : HostCall → Prop
  | .createDirectory _ answer => answer.isOk = true
  | .launch _ _ answer => answer.isOk = true
  | _ => False

/-- The command line that has been handed over, with its directory. -/
def launched? : HostCall → Option (String × Path)
  | .launch commandLine directory _ => some (commandLine, directory)
  | _ => none

end HostCall

variable {σ α : Type}

/-! ## The watched host -/

/-- Asks a question and puts it on the record. -/
def Host.note (call : α → HostCall) (question : StateM σ α) : StateM (σ × List HostCall) α :=
  fun (s, record) => ((question s).1, ((question s).2, record ++ [call (question s).1]))

/-- The same host, with a record of what it has been asked. -/
def Host.watched (host : Host σ) : Host (σ × List HostCall) :=
  { home := host.home
    isDirectory := fun path => note (.isDirectory path) (host.isDirectory path)
    occupied := fun path => note (.occupied path) (host.occupied path)
    createDirectory := fun path => note (.createDirectory path) (host.createDirectory path)
    listDirectory := fun path => note (.listDirectory path) (host.listDirectory path)
    launch := fun line directory => note (.launch line directory) (host.launch line directory) }

theorem Host.home_watched (host : Host σ) : host.home = host.watched.home := rfl

namespace Run

/-- The run with an empty record. -/
def watched (run : Run σ) : Run (σ × List HostCall) := { run with host := (run.host, []) }

/-- The run without the record. -/
def unwatched (run : Run (σ × List HostCall)) : Run σ := { run with host := run.host.1 }

end Run

/-- **Watching changes nothing.** A run on a watched host is a run on the host, with a record. -/
def Simulation.watching (host : Host σ) : Simulation host.watched host where
  view := Run.unwatched
  home := Host.home_watched host
  session _ := rfl
  setSession _ _ := rfl
  told _ _ := rfl
  noted _ _ := rfl
  isDirectory _ _ := ⟨rfl, rfl⟩
  occupied _ _ := ⟨rfl, rfl⟩
  createDirectory _ _ := ⟨rfl, rfl⟩
  listDirectory _ _ := ⟨rfl, rfl⟩
  launch _ _ _ := ⟨rfl, rfl⟩

/-- What a request asks of the machine, in order. -/
def Request.asked (host : Host σ) (request : Request) (run : Run σ) : List HostCall :=
  (request.perform host.watched run.watched).2.host.2

theorem Request.perform_watched (host : Host σ) (request : Request) (run : Run σ) :
    request.perform host run =
      (Simulation.watching host).along (request.perform host.watched run.watched) :=
  (Simulation.watching host).perform_view request run.watched

end ThemedShell
