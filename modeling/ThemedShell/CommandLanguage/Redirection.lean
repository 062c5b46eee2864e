import ThemedShell.CommandLanguage.Expansion

/-!
# The command language: redirections

All targets of a command's redirections are expanded before the first of them is opened.
-/
namespace ThemedShell.CommandLanguage.Redirection

open Text (Octets encode)

/-- A redirection whose target has been expanded. -/
structure Ready where
  fd : Nat
  kind : RedirectKind
  target : Octets

/-- What stands behind the operator of a copy. -/
inductive Source where
  | file (fd : Nat)
  | nothing

/-- The source of a copy: one digit or a dash. -/
def source? (target : Octets) : Option Source :=
  match target with
  | [b] => if isDigit b then some (.file (b.toNat - 48))
    else if asChar b == '-' then some .nothing else none
  | _ => none

/-- Expands the target of a redirection. -/
def expand (substitute : Command → Step Octets) : Redirect → Step Ready
  | .mk fd (.here index) _ => do
    let text := (← get).texts[index]?.getD []
    return ⟨fd, .here index, ← Expansion.whole substitute text⟩
  | .mk fd kind word => do
    let target ← Expansion.whole substitute word
    let isCopy := kind = .duplicateInput || kind = .duplicateOutput
    if isCopy && (source? target).isNone then
      Step.abort (encode "Syntax error: Bad fd number")
    return ⟨fd, kind, target⟩

/-! ## Opening -/

/-- The open file that a path in the directory of devices stands for. -/
def device? (path : Octets) : Option Nat :=
  if path == encode "/dev/stdin" then some 0
  else if path == encode "/dev/stdout" then some 1
  else if path == encode "/dev/stderr" then some 2
  else if (encode "/dev/fd/").isPrefixOf path then
    match path.drop 8 with
    | [b] => if isDigit b then some (b.toNat - 48) else none
    | _ => none
  else none

/-- The channel that reads from a path. -/
def inputChannel (p : Process) (path : Octets) : Except SystemError Channel := do
  let node ← FileTree.find p.world.root p.here ⟨path⟩ true
  let location ← FileTree.locate p.world.root p.here ⟨path⟩ true
  match node with
  | .file _ _ => return .file location 0 false
  | .directory _ => return .directory
  | _ => return .void

/-- The channel that writes to a path, and the tree in which the file is there. A file that is there
already is spared if `spare` says so. -/
def outputChannel (p : Process) (path : Octets) (truncate append spare : Bool) :
    Except SystemError (Channel × FileTree.Node) := do
  let isThere := FileTree.isOccupied p.world.root p.here ⟨path⟩
  if spare && isThere then
    if let .ok (.file _ _) := FileTree.find p.world.root p.here ⟨path⟩ true then
      throw .alreadyExists
  let (location, root) ← FileTree.openFile p.world.root p.here ⟨path⟩ truncate
  match root.at? location with
  | some (.file _ _) => return (.file location 0 append, root)
  | _ => return (.void, root)

/-- Lets a number stand for a channel that another number stands for. -/
def copy (fd source : Nat) : Step (Option Octets) := do
  match (← get).channelOf? source with
  | some channel =>
    modify fun p => p.openAs fd channel
    return none
  | none => return some (encode (toString source ++ ": " ++ SystemError.describe 9))

/-- Lets a number stand for a new channel. -/
def attach (fd : Nat) (channel : Channel) : Step Unit :=
  modify fun p =>
    let (index, p) := p.addChannel channel
    p.openAs fd index

/-- Opens one redirection; a failure is a message. -/
def openOne (r : Ready) : Step (Option Octets) := do
  let output (truncate append spare : Bool) : Step (Option Octets) := do
    if let some fd := device? r.target then return ← copy r.fd fd
    match outputChannel (← get) r.target truncate append spare with
    | .ok (channel, root) =>
      modify fun p => p.setRoot root
      attach r.fd channel
      return none
    | .error e =>
      return some (encode "cannot create " ++ r.target
        ++ encode (": " ++ Step.describe e "Directory nonexistent"))
  match r.kind with
  | .input =>
    if let some fd := device? r.target then return ← copy r.fd fd
    match inputChannel (← get) r.target with
    | .ok channel =>
      attach r.fd channel
      return none
    | .error e =>
      return some (encode "cannot open " ++ r.target
        ++ encode (": " ++ Step.describe e "No such file"))
  | .output => output true false (← get).options.noClobber
  | .overwrite => output true false false
  | .append => output false true false
  | .readWrite => output false false false
  | .duplicateInput | .duplicateOutput =>
    match source? r.target with
    | some (.file source) => if source = r.fd then return none else copy r.fd source
    | _ =>
      modify fun p => p.close r.fd
      return none
  | .here _ =>
    attach r.fd (.buffer ⟨r.target.toArray⟩ 0)
    return none

/-- Opens redirections one after the other, up to the first failure, which is told. -/
def openAll : List Ready → Step Bool
  | [] => return true
  | r :: rest => do
    match ← openOne r with
    | none => openAll rest
    | some message =>
      Step.complain message
      return false

/-- Lets the numbers of redirections stand for what they stood for before. -/
def restore (before : List (Nat × Nat)) (redirects : List Redirect) (p : Process) : Process :=
  redirects.foldl (fun p redirect =>
    match redirect with
    | .mk fd _ _ =>
      match before.lookup fd with
      | some channel => p.openAs fd channel
      | none => p.close fd) p

end ThemedShell.CommandLanguage.Redirection
