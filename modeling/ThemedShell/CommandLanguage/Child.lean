import ThemedShell.CommandLanguage.Process
import ThemedShell.CommandLanguage.Signal

/-!
# The command language: child processes

A child starts with a copy of its parent's state and works on the same world. Only the world and a
status come back from it.
-/
namespace ThemedShell.CommandLanguage

/-- Runs a step and then puts some of the state in order, however the step ended. -/
def Step.andThen {α : Type} (body : Step α) (cleanup : Process → Process) : Step α :=
  ExceptT.mk fun p =>
    let (result, p) := body p
    (result, cleanup p)

namespace Child

/-- The world while a child has it. -/
def lent : World := { root := .empty, channels := #[], nextProcess := 0 }

/-- What a child is when it starts. -/
def start (parent : Process) (number : Nat) : Process :=
  { parent with number, traps := parent.traps.filter (·.2.isEmpty), pending := [], jobs := [] }

/-- Runs a step as a child; gives the child's number too. -/
def fork (body : Step Nat) : Step (Nat × Except Interrupt Nat) :=
  ExceptT.mk fun parent =>
    let world := parent.world
    let parent := { parent with world := lent }
    let number := world.nextProcess
    let world := { world with nextProcess := number + 1 }
    let (result, child) := body { start parent number with world }
    (.ok (number, result), { parent with world := child.world })

/-- Tells how a child was ended. -/
def report (signal : Nat) : Step Unit :=
  match Signal.ofNumber? signal with
  | some signal => if signal.isQuiet then return else Step.errText (signal.description ++ "\n")
  | none => return

/-- A signal that a child sent reaches its parent. -/
def receive (signal process : Nat) : Step Nat := do
  let p ← get
  let trapped := do
    let signal ← Signal.ofNumber? signal
    let _ ← if signal.isForced then none else p.traps.lookup signal.name
    return signal.name
  match trapped with
  | some name =>
    if process = p.number then
      modify fun p => { p with pending := p.pending ++ [name] }
      return 0
    else throw (.killed signal process)
  | none => throw (.killed signal process)

/-- Runs a step as a child up to its end and gives its status. -/
def run (body : Step Nat) : Step Nat := do
  match ← fork body with
  | (_, .ok status) | (_, .error (.exit status)) | (_, .error (.leaveFunction status)) =>
    return status % 256
  | (_, .error (.leaveLoop _)) | (_, .error (.nextRound _)) => return 0
  | (number, .error (.killed signal process)) =>
    if process = number then
      report signal
      return 128 + signal
    else receive signal process

end Child

end ThemedShell.CommandLanguage
