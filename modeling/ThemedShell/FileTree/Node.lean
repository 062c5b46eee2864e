import ThemedShell.Path.Basic

/-!
# Trees of files

A tree of files is made of directories, regular files and links. A `Location` is the way from the
root down to a place, one name a step; no link is followed on it.
-/
namespace ThemedShell.FileTree

inductive Node where
  | file (content : ByteArray) (executable : Bool)
  /-- Takes whatever is written to it and has nothing to read. -/
  | nullDevice
  | link (target : Path)
  | directory (entries : List (FileName × Node))
deriving Inhabited

/-- The names down to a place. -/
abbrev Location := List FileName

/-- The entries of a directory. -/
abbrev Entries := List (FileName × Node)

/-! ## Entries -/

def Entries.names (entries : Entries) : List FileName := entries.map Prod.fst

/-- Replaces what is called `name`, which may be nothing before or after. -/
def Entries.alter (name : FileName) (f : Option Node → Option Node) : Entries → Entries
  | [] => match f none with
    | some node => [(name, node)]
    | none => []
  | (other, node) :: rest =>
    if other = name then
      match f (some node) with
      | some node => (other, node) :: rest
      | none => rest
    else (other, node) :: Entries.alter name f rest

/-! ## Nodes -/

namespace Node

def empty : Node := .directory []

def isDirectory : Node → Bool
  | .directory _ => true
  | _ => false

def isLink : Node → Bool
  | .link _ => true
  | _ => false

def entries : Node → Entries
  | .directory entries => entries
  | _ => []

/-- What is at a location. -/
def at? : Node → Location → Option Node
  | node, [] => some node
  | .directory entries, name :: rest =>
    match entries.lookup name with
    | some node => node.at? rest
    | none => none
  | _, _ :: _ => none

/-- Replaces what is at a location below the root. Nothing changes if the way there is not made of
directories. -/
def alter (f : Option Node → Option Node) : Location → Node → Node
  | [name], .directory entries => .directory (Entries.alter name f entries)
  | name :: rest, .directory entries =>
    .directory (Entries.alter name (Option.map (alter f rest)) entries)
  | _, node => node

/-- Puts a node at a location, in the place of what is there. -/
def insert (root : Node) (location : Location) (node : Node) : Node :=
  root.alter (fun _ => some node) location

def erase (root : Node) (location : Location) : Node := root.alter (fun _ => none) location

end Node

end ThemedShell.FileTree
