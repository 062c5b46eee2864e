import Mathlib.Data.List.Basic
import ThemedShell.FileTree.Walk

/-!
# Places in a tree

What is at a location is found name by name. To put an empty directory where nothing is changes
nothing else: at every other location there is what was there before, but for the entries of a
directory (`bare_at?_insert`).
-/
namespace ThemedShell.FileTree

namespace Entries

theorem lookup_cons (first : FileName) (node : Node) (rest : Entries) (name : FileName) :
    List.lookup name ((first, node) :: rest) =
      if name = first then some node else List.lookup name rest := by
  by_cases h : name = first
  · simp [h]
  · simp [List.lookup_cons, h, beq_false_of_ne h]

/-- To replace one entry, but not to remove it, is to replace what is found under its name. -/
theorem lookup_alter {name : FileName} {f : Option Node → Option Node}
    (keeps : ∀ node, (f (some node)).isSome = true) (other : FileName) :
    ∀ entries : Entries, List.lookup other (alter name f entries) =
      if other = name then f (List.lookup name entries) else List.lookup other entries
  | [] => by
    rw [alter]
    cases hf : f none with
    | none => simp [hf]
    | some node => simp [lookup_cons, hf]
  | (first, node) :: rest => by
    have ih := @lookup_alter name f keeps other rest
    obtain ⟨kept, hkept⟩ := Option.isSome_iff_exists.1 (keeps node)
    rw [alter]
    by_cases hfirst : first = name
    · by_cases h : other = name <;> simp [lookup_cons, hfirst, hkept, h]
    · have hname : name ≠ first := fun e => hfirst e.symm
      rw [if_neg hfirst, lookup_cons, lookup_cons, lookup_cons, if_neg hname, ih]
      by_cases h : other = first <;> simp [h, hfirst]

end Entries

namespace Node

variable {root : Node}

/-! ## Looking up -/

theorem at?_nil (node : Node) : node.at? [] = some node := by
  cases node <;> rfl

theorem at?_directory (entries : List (FileName × Node)) (name : FileName) (rest : Location) :
    (Node.directory entries).at? (name :: rest) = (entries.lookup name).bind (·.at? rest) := by
  rw [at?]
  cases entries.lookup name <;> rfl

theorem at?_append (location more : Location) :
    root.at? (location ++ more) = (root.at? location).bind (·.at? more) := by
  induction location generalizing root with
  | nil => rw [at?_nil]; rfl
  | cons name rest ih =>
    cases root with
    | directory entries =>
      rw [List.cons_append, at?_directory, at?_directory, Option.bind_assoc]
      exact Option.bind_congr fun _ _ => ih
    | _ => rfl

/-- There is a directory at the location. -/
def hasDirectory (root : Node) (location : Location) : Bool := (root.at? location).any isDirectory

theorem hasDirectory_eq_true {location : Location} :
    root.hasDirectory location = true ↔
      ∃ entries, root.at? location = some (.directory entries) := by
  rw [hasDirectory]
  cases root.at? location with
  | none => simp
  | some node => cases node <;> simp [isDirectory]

theorem isSome_of_hasDirectory {location : Location} (h : root.hasDirectory location = true) :
    (root.at? location).isSome = true := by
  obtain ⟨entries, h⟩ := hasDirectory_eq_true.1 h
  rw [h]
  rfl

/-- Only directories have something below them. -/
theorem hasDirectory_of_append {location rest : Location} {name : FileName}
    (h : (root.at? (location ++ name :: rest)).isSome = true) :
    root.hasDirectory location = true := by
  rw [at?_append] at h
  rw [hasDirectory]
  cases hl : root.at? location with
  | none => simp [hl] at h
  | some node => cases node <;> simp_all [at?, isDirectory]

/-! ## Trees without links -/

/-- There is no link anywhere in the tree. -/
def Linkless (root : Node) : Prop := ∀ location target, root.at? location ≠ some (.link target)

theorem linkless_directory {entries : List (FileName × Node)}
    (h : ∀ entry ∈ entries, entry.2.Linkless) : (Node.directory entries).Linkless := by
  intro location target
  cases location with
  | nil => simp [at?_nil]
  | cons name rest =>
    rw [at?_directory]
    cases hl : entries.lookup name with
    | none => simp
    | some node =>
      obtain ⟨before, after, rfl, -⟩ := List.lookup_eq_some_iff.1 hl
      exact h (name, node) (by simp) rest target

theorem linkless_file (content : ByteArray) (executable : Bool) :
    (Node.file content executable).Linkless := by
  intro location target
  cases location <;> simp [at?]

/-! ## Putting a directory where nothing is -/

/-- A node without what is in it. -/
def bare : Node → Node
  | .directory _ => .empty
  | node => node

@[simp] theorem isDirectory_bare (node : Node) : node.bare.isDirectory = node.isDirectory := by
  cases node <;> rfl

theorem bare_eq_link {node : Node} {target : Path} :
    node.bare = .link target ↔ node = .link target := by
  cases node <;> simp [bare, empty]

theorem hasDirectory_eq_any_bare (location : Location) :
    root.hasDirectory location = ((root.at? location).map bare).any isDirectory := by
  rw [hasDirectory]
  cases root.at? location <;> simp

theorem insert_singleton (entries : List (FileName × Node)) (name : FileName) (node : Node) :
    (Node.directory entries).insert [name] node =
      .directory (Entries.alter name (fun _ => some node) entries) := by
  rw [insert, alter]

theorem insert_cons (entries : List (FileName × Node)) (name : FileName) {rest : Location}
    (h : rest ≠ []) (node : Node) :
    (Node.directory entries).insert (name :: rest) node =
      .directory (Entries.alter name (Option.map (·.insert rest node)) entries) := by
  rw [insert, alter]
  · rfl
  · exact fun e => h e

/-- **Only the new directory is new.** At every other location there is what was there before, but
for what a directory has in it. -/
theorem bare_at?_insert {directory : Location} {name : FileName}
    (parent : root.hasDirectory directory = true) (free : root.at? (directory ++ [name]) = none)
    (location : Location) :
    ((root.insert (directory ++ [name]) .empty).at? location).map bare =
      if location = directory ++ [name] then some .empty else (root.at? location).map bare := by
  induction directory generalizing root location with
  | nil =>
    obtain ⟨entries, hroot⟩ := hasDirectory_eq_true.1 parent
    obtain rfl : root = .directory entries := by simpa [at?_nil] using hroot
    rw [List.nil_append, insert_singleton]
    cases location with
    | nil => simp [at?_nil, bare]
    | cons first below =>
      rw [at?_directory, at?_directory, Entries.lookup_alter (fun _ => rfl)]
      by_cases hfirst : first = name
      · have none : entries.lookup name = none := by simpa [at?_directory, at?_nil] using free
        cases below <;> simp [hfirst, none, at?, bare, empty]
      · simp [hfirst]
  | cons above directory ih =>
    have inside := isSome_of_hasDirectory parent
    cases root with
    | directory entries =>
      rw [List.cons_append, insert_cons entries above (by simp)]
      cases location with
      | nil => simp [at?_nil, bare]
      | cons first below =>
        rw [at?_directory, at?_directory, Entries.lookup_alter (by simp)]
        by_cases hfirst : first = above
        · subst hfirst
          rw [hasDirectory, at?_directory] at parent
          rw [List.cons_append, at?_directory] at free
          cases hchild : entries.lookup first with
          | none => simp [hchild] at parent
          | some child =>
            rw [hchild] at parent free
            simpa using ih parent free below
        · simp [hfirst]
    | _ => simp [at?] at inside

section

variable {directory : Location} {name : FileName} (parent : root.hasDirectory directory = true)
  (free : root.at? (directory ++ [name]) = none)
include parent free

theorem isSome_insert {location : Location} (h : (root.at? location).isSome = true) :
    ((root.insert (directory ++ [name]) .empty).at? location).isSome = true := by
  have kind := congrArg Option.isSome (bare_at?_insert parent free location)
  rw [Option.isSome_map] at kind
  rw [kind]
  split
  · rfl
  · rwa [Option.isSome_map]

theorem hasDirectory_insert {location : Location} (h : root.hasDirectory location = true) :
    (root.insert (directory ++ [name]) .empty).hasDirectory location = true := by
  rw [hasDirectory_eq_any_bare] at h ⊢
  rw [bare_at?_insert parent free]
  split
  · rfl
  · exact h

/-- The new directory is empty: below its location there is as little as before. -/
theorem at?_insert_self :
    (root.insert (directory ++ [name]) .empty).at? (directory ++ [name]) = some .empty := by
  have kind := bare_at?_insert parent free (directory ++ [name])
  rw [if_pos rfl] at kind
  obtain ⟨node, hnode, hbare⟩ := Option.map_eq_some_iff.1 kind
  obtain ⟨entries, rfl⟩ : ∃ entries, node = .directory entries := by
    cases node <;> simp_all [bare, empty]
  cases entries with
  | nil => exact hnode
  | cons entry entries =>
    have below := bare_at?_insert parent free (directory ++ [name] ++ [entry.1])
    rw [at?_append, hnode, at?_append, free] at below
    simp [at?_directory, at?_nil] at below

theorem Linkless.insert (linkless : root.Linkless) :
    (root.insert (directory ++ [name]) .empty).Linkless := by
  intro location target hlink
  have kind := bare_at?_insert parent free location
  rw [hlink] at kind
  split at kind
  · cases kind
  · obtain ⟨node, hnode, hbare⟩ := Option.map_eq_some_iff.1 kind.symm
    rw [bare_eq_link.1 hbare] at hnode
    exact linkless location target hnode

end

end Node

end ThemedShell.FileTree
