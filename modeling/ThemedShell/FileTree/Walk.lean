import ThemedShell.FileTree.Node
import ThemedShell.SystemError

/-!
# Walks

A walk follows a path step by step from a directory of the tree, through links. It ends where
something is, or at a name that is still free in a directory that is there.
-/
namespace ThemedShell.FileTree

open Text (Octets)

/-! ## Steps -/

def oneDot : Octets := [Path.dot]

def twoDots : Octets := [Path.dot, Path.dot]

/-- What a walk has to step through. A slash at the end asks for a directory, as a dot would. -/
def steps (path : Path) : List Octets :=
  let names := (path.bytes.splitOn Path.slash).filter (· ≠ [])
  if path.bytes.getLast? = some Path.slash then names ++ [oneDot] else names

/-- No name of a file is longer. -/
def longestName : Nat := 255

/-- A path with as many bytes is too long. -/
def pathLimit : Nat := 4096

/-- As many links are followed in one walk. -/
def linkLimit : Nat := 40

/-! ## Where a walk ends -/

inductive Place where
  | occupied (location : Location)
  /-- Nothing has this name in the directory. -/
  | free (directory : Location) (name : FileName)
deriving Repr

/-- Walks on from `here`, which is given from the place up to the root. A link at the very end is
followed if `follow` says so. From a directory that has been removed only the way up is left. -/
def walkFrom (root : Node) (follow : Bool) (links : Nat) (here : List FileName) :
    List Octets → Except SystemError Place
  | [] => .ok (.occupied here.reverse)
  | step :: rest =>
    match root.at? here.reverse with
    | none =>
      if step = oneDot then walkFrom root follow links here rest
      else if step = twoDots then walkFrom root follow links here.tail rest
      else .error .noSuchEntry
    | some (.directory entries) =>
      if step = oneDot then walkFrom root follow links here rest
      else if step = twoDots then walkFrom root follow links here.tail rest
      else if longestName < step.length then .error .nameTooLong
      else match entries.lookup step with
        | none =>
          if rest = [] then .ok (.free here.reverse step) else .error .noSuchEntry
        | some (.link target) =>
          if rest = [] && !follow then .ok (.occupied (step :: here).reverse)
          else match links with
            | 0 => .error .tooManyLinks
            | links + 1 =>
              walkFrom root follow links (if target.isAbsolute then [] else here)
                (steps target ++ rest)
        | some _ => walkFrom root follow links (step :: here) rest
    | some _ => .error .notDirectory
termination_by l => (links, l.length)

/-- Follows a path from a directory of the tree. -/
def walk (root : Node) (base : Location) (path : Path) (follow : Bool) :
    Except SystemError Place :=
  if path.bytes = [] then .error .noSuchEntry
  else if pathLimit ≤ path.bytes.length then .error .nameTooLong
  else walkFrom root follow linkLimit (if path.isAbsolute then [] else base.reverse) (steps path)

/-- Where the thing is that a path leads to. -/
def locate (root : Node) (base : Location) (path : Path) (follow : Bool) :
    Except SystemError Location :=
  match walk root base path follow with
  | .error e => .error e
  | .ok (.free _ _) => .error .noSuchEntry
  | .ok (.occupied location) => .ok location

/-- The thing that a path leads to, through links if `follow` says so. A directory that has been
removed is empty to those who are still in it. -/
def find (root : Node) (base : Location) (path : Path) (follow : Bool) :
    Except SystemError Node :=
  (locate root base path follow).map fun location => (root.at? location).getD .empty

end ThemedShell.FileTree
