import ThemedShell.FileTree.Directory

/-!
# Files of a tree

Reading and writing files, removing and moving names, making links.
-/
namespace ThemedShell.FileTree

/-- The content of a file. A directory can be opened but not read. -/
def readFile (root : Node) (base : Location) (path : Path) : Except SystemError ByteArray :=
  match find root base path true with
  | .error e => .error e
  | .ok (.file content _) => .ok content
  | .ok .nullDevice => .ok .empty
  | .ok (.directory _) => .error .isDirectory
  | .ok (.link _) => .error .tooManyLinks

/-- Where the file is that is opened for writing; one that is not there is made. -/
def openFile (root : Node) (base : Location) (path : Path) (truncate : Bool) :
    Except SystemError (Location × Node) :=
  if path.bytes.getLast? = some Path.slash then .error .isDirectory
  else match walk root base path true with
    | .error e => .error e
    | .ok (.free directory name) =>
      let location := directory ++ [name]
      .ok (location, root.insert location (.file .empty false))
    | .ok (.occupied location) =>
      match root.at? location with
      | some (.file _ executable) =>
        .ok (location, if truncate then root.insert location (.file .empty executable) else root)
      | some .nullDevice => .ok (location, root)
      | some (.directory _) => .error .isDirectory
      | _ => .error .noSuchEntry

/-- Writes into the file at a location, from an offset on; what lies behind stays. -/
def writeAt (root : Node) (location : Location) (offset : Nat) (bytes : ByteArray) : Node :=
  match root.at? location with
  | some (.file content executable) =>
    let before := if content.size < offset then
        content ++ ⟨Array.replicate (offset - content.size) 0⟩
      else content.extract 0 offset
    let after := content.extract (offset + bytes.size) content.size
    root.insert location (.file (before ++ bytes ++ after) executable)
  | _ => root

def sizeAt (root : Node) (location : Location) : Nat :=
  match root.at? location with
  | some (.file content _) => content.size
  | _ => 0

/-- Removes a name that is not a directory's. -/
def removeFile (root : Node) (base : Location) (path : Path) : Except SystemError Node :=
  match locate root base path false with
  | .error e => .error e
  | .ok location =>
    match root.at? location with
    | some (.directory _) => .error .isDirectory
    | _ => .ok (root.erase location)

/-- Gives a name to a thing; it must be free. -/
def addNode (root : Node) (base : Location) (path : Path) (node : Node) :
    Except SystemError Node :=
  match walk root base path false with
  | .error e => .error e
  | .ok (.occupied _) => .error .alreadyExists
  | .ok (.free directory name) => .ok (root.insert (directory ++ [name]) node)

/-- Moves a thing to another name. A file may take the place of a file, a directory that of an
empty directory; a directory cannot go below itself. -/
def rename (root : Node) (base : Location) (source target : Path) : Except SystemError Node := do
  let sourceLocation ← locate root base (dropLastSlashes source) false
  let node ← find root base (dropLastSlashes source) false
  let move (targetLocation : Location) : Node :=
    (root.erase sourceLocation).insert targetLocation node
  match ← walk root base (dropLastSlashes target) false with
  | .free directory name =>
    if node.isDirectory && sourceLocation.isPrefixOf directory then .error .invalidArgument
    else .ok (move (directory ++ [name]))
  | .occupied location =>
    if location = sourceLocation then .ok root
    else if node.isDirectory && sourceLocation.isPrefixOf location then .error .invalidArgument
    else match root.at? location, node.isDirectory with
      | some (.directory []), true => .ok (move location)
      | some (.directory _), true => .error .notEmpty
      | some (.directory _), false => .error .isDirectory
      | _, true => .error .notDirectory
      | _, false => .ok (move location)

/-! ## Everything below a place -/

/-- All that is below a node, each with the names down to it. -/
def descendants : Node → List (Location × Node)
  | .directory entries => descendantsOf entries
  | _ => []
where
  /-- The same for the entries of a directory. -/
  descendantsOf : List (FileName × Node) → List (Location × Node)
    | [] => []
    | (name, node) :: rest =>
      ([name], node) :: (descendants node).map (fun (below, n) => (name :: below, n))
        ++ descendantsOf rest

end ThemedShell.FileTree
