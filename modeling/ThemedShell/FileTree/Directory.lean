import ThemedShell.FileTree.Walk

/-!
# Directories of a tree

Looking for directories, listing them, making and removing them.
-/
namespace ThemedShell.FileTree

/-- A byte that no path may hold. -/
def nul : UInt8 := 0

def hasNul (path : Path) : Bool := path.bytes.contains nul

def isDirectoryAt (root : Node) (base : Location) (path : Path) : Bool :=
  match find root base path true with
  | .ok node => node.isDirectory
  | .error _ => false

/-- Something has the name, be it a link that leads nowhere. -/
def isOccupied (root : Node) (base : Location) (path : Path) : Bool :=
  match find root base path false with
  | .ok _ => true
  | .error _ => false

def listDirectory (root : Node) (base : Location) (path : Path) :
    Except SystemError (List FileName) :=
  match find root base path true with
  | .error e => .error e
  | .ok (.directory entries) => .ok (Entries.names entries)
  | .ok _ => .error .notDirectory

/-- A path without the slashes at its end; of the root, one stays. -/
def dropLastSlashes (path : Path) : Path :=
  let kept := (path.bytes.reverse.dropWhile (· = Path.slash)).reverse
  if kept = [] then ⟨path.bytes.take 1⟩ else ⟨kept⟩

/-- Makes an empty directory. Whatever is there already is in the way. -/
def createDirectory (root : Node) (base : Location) (path : Path) : Except SystemError Node :=
  if pathLimit ≤ path.bytes.length then .error .nameTooLong
  else match walk root base (dropLastSlashes path) false with
    | .error e => .error e
    | .ok (.occupied _) => .error .alreadyExists
    | .ok (.free directory name) => .ok (root.insert (directory ++ [name]) .empty)

/-- Removes an empty directory. -/
def removeDirectory (root : Node) (base : Location) (path : Path) : Except SystemError Node :=
  match (steps (dropLastSlashes path)).getLast? with
  | none => .error (if path.bytes = [] then .noSuchEntry else .os 16)
  | some step =>
    if step = oneDot then .error .invalidArgument
    else if step = twoDots then .error .notEmpty
    else match locate root base (dropLastSlashes path) false with
      | .error e => .error e
      | .ok location =>
        match root.at? location with
        | some (.directory []) => .ok (root.erase location)
        | some (.directory _) => .error .notEmpty
        | _ => .error .notDirectory

end ThemedShell.FileTree
