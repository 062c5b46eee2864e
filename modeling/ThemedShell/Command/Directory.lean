import ThemedShell.Command.Basic
import ThemedShell.Path.Home

/-!
# Commands on directories

`cd` moves the session, `ls` lists a directory, `mkdir` makes one. The first two read their argument
as users write paths; `mkdir` takes it as it stands, below the current directory. `changeDirectory`,
`list` and `makeDirectory` are `CdCommand.execute`, `LsCommand.execute` and `MkdirCommand.execute`.
-/
namespace ThemedShell.Command

variable {σ : Type}

/-- The path that an argument stands for, as seen from the current directory. -/
def resolve (host : Host σ) (argument : String) : Action σ Path := do
  match Path.resolve host.home (← Action.session).directory argument with
  | some path => return path
  | none => throw (.path .homeNotFound)

/-- Moves to the directory that the argument names; without one, shows where the session is. -/
def changeDirectory (host : Host σ) (argument : String) : Action σ Outcome := do
  let session ← Action.session
  if Text.isBlankText argument then
    Action.emit [.plain session.directory.display]
    return .proceed
  let target ← resolve host argument
  match ← Action.ask (session.enter? host target) with
  | none => throw (.pathNotFound argument)
  | some session =>
    Action.setSession session
    Action.note (.directoryChanged session.directory)
    Action.emit [.plain ("Directory changed to: " ++ session.directory.display)]
    return .proceed

/-! ## Listing -/

/-- The names of a directory's entries: those that are directories, and the others. -/
structure Listing where
  directories : List FileName := []
  others : List FileName := []
deriving DecidableEq, Repr

def Listing.lines (listing : Listing) : List Line :=
  listing.directories.map (fun name => ⟨.directory, "  <DIR> " ++ Text.decodeLossy name⟩)
    ++ listing.others.map (fun name => ⟨.file, "  " ++ Text.decodeLossy name⟩)

/-- An error of the machine while a directory is listed. -/
def listingError (source : SystemError) : CommandError := .system "listing" source

/-- Tells directories from other entries, in the order in which the host gives them. The first
entry that cannot be read makes the listing fail. -/
def sortEntries (host : Host σ) (target : Path) :
    List (Except SystemError FileName) → Action σ Listing
  | [] => return {}
  | .error source :: _ => throw (listingError source)
  | .ok name :: rest => do
    let isDirectory ← Action.ask (host.isDirectory (target.entry name))
    let listing ← sortEntries host target rest
    if isDirectory then return { listing with directories := name :: listing.directories }
    else return { listing with others := name :: listing.others }

/-- Lists a directory. Nothing is written before the whole listing is known. -/
def listAt (host : Host σ) (argument : String) (target : Path) : Action σ Outcome := do
  if ← Action.ask (host.isDirectory target) then
    match ← Action.ask (host.listDirectory target) with
    | .error source => throw (listingError source)
    | .ok entries =>
      let listing ← sortEntries host target entries
      Action.emit (.plain ("Contents of '" ++ target.display ++ "':") :: listing.lines)
      return .proceed
  else
    throw (.pathNotFound (if Text.isBlankText argument then target.display else argument))

/-- Lists the directory that the argument names; without one, the current directory. -/
def list (host : Host σ) (argument : String) : Action σ Outcome := do
  let here := (← Action.session).directory
  let target ← if Text.isBlankText argument then pure here else resolve host argument
  listAt host argument target

/-! ## Making directories -/

/-- Why a directory could not be made: something may have taken the name in the meantime. -/
def creationError (argument : String) (source : SystemError) : CommandError :=
  if source.isExists then .alreadyExists argument else .system "creating folder" source

/-- Makes one directory. Whatever has the name already, a link that leads nowhere included, is in
the way. -/
def makeDirectory (host : Host σ) (argument : String) : Action σ Outcome := do
  if Text.isBlankText argument then
    Action.emit [.warning "Usage: mkdir <folder_name>"]
    return .proceed
  let path := (← Action.session).directory.join (.ofString argument)
  if ← Action.ask (host.occupied path) then
    throw (.alreadyExists argument)
  match ← Action.ask (host.createDirectory path) with
  | .error source => throw (creationError argument source)
  | .ok () =>
    Action.emit [.plain ("Folder '" ++ argument ++ "' created.")]
    return .proceed

end ThemedShell.Command
