import ThemedShell.Proofs.SamePlace

/-!
# New directories

`mkdir` hands the name over as it is written, below the current directory; `cd` and `ls` go by its
normal form. In a tree without links they mean the same place by it: what `mkdir` has made is in its
own way, and it is what `cd` goes to and `ls` lists (`new_directory_is_found`).
-/
namespace ThemedShell

open FileTree (Location locate hasNul)
open Text (Octets)

/-! ## Slashes at the end -/

namespace Path

/-- Slashes at the end add no pieces. -/
theorem pieces_append_slashes (first : Octets) :
    ∀ {slashes : Octets}, (∀ b ∈ slashes, b = slash) →
      pieces ⟨first ++ slashes⟩ = pieces ⟨first⟩
  | [], _ => by rw [List.append_nil]
  | b :: slashes, h => by
    obtain rfl := h b (by simp)
    have none : pieces ⟨slashes⟩ = [] := by
      simpa [pieces] using pieces_append_slashes [] fun b hb => h b (by simp [hb])
    rw [pieces_slash, none, List.append_nil]

end Path

namespace FileTree

/-- Only slashes are cut off, and not the last byte. -/
theorem bytes_dropLastSlashes (path : Path) :
    ∃ slashes, (∀ b ∈ slashes, b = Path.slash) ∧
      path.bytes = (dropLastSlashes path).bytes ++ slashes ∧
      ((dropLastSlashes path).bytes = [] → path.bytes = []) := by
  have cut := congrArg List.reverse
    (List.takeWhile_append_dropWhile (p := (· = Path.slash)) (l := path.bytes.reverse))
  rw [List.reverse_append, List.reverse_reverse] at cut
  have last : ∀ b ∈ (path.bytes.reverse.takeWhile (· = Path.slash)).reverse, b = Path.slash :=
    fun b hb => by simpa using List.mem_takeWhile_imp (List.mem_reverse.1 hb)
  simp only [dropLastSlashes]
  split
  · next none =>
    rw [none, List.nil_append] at cut
    rw [cut] at last
    refine ⟨path.bytes.drop 1, fun b hb => last b (List.mem_of_mem_drop hb),
      (List.take_append_drop 1 path.bytes).symm, fun empty => ?_⟩
    simpa using empty
  · next kept => exact ⟨_, last, cut.symm, fun empty => absurd empty kept⟩

theorem pieces_dropLastSlashes (path : Path) : (dropLastSlashes path).pieces = path.pieces := by
  obtain ⟨slashes, last, hbytes, -⟩ := bytes_dropLastSlashes path
  have := Path.pieces_append_slashes (dropLastSlashes path).bytes last
  rw [← hbytes] at this
  exact this.symm

theorem isAbsolute_dropLastSlashes {path : Path} (h : path.isAbsolute = true) :
    (dropLastSlashes path).isAbsolute = true := by
  obtain ⟨rest, hrest⟩ := Path.bytes_of_isAbsolute h
  obtain ⟨slashes, -, hbytes, nonempty⟩ := bytes_dropLastSlashes path
  cases hd : (dropLastSlashes path).bytes with
  | nil => simp [nonempty hd] at hrest
  | cons b others =>
    rw [hd, hrest, List.cons_append] at hbytes
    simp [Path.isAbsolute, hd, (List.cons.inj hbytes).1]

/-! ## Walks in the tree with the new directory -/

namespace Node

variable {root : Node} {directory : Location} {name : FileName}
  (parent : root.hasDirectory directory = true) (free : root.at? (directory ++ [name]) = none)
include parent free

/-- No step of a walk is lost. -/
theorem step?_insert {here there : List FileName} {piece : Octets}
    (h : root.step? here piece = some there) :
    (root.insert (directory ++ [name]) .empty).step? here piece = some there := by
  unfold step? at h ⊢
  split at h
  · next inside =>
    rw [if_pos (hasDirectory_insert parent free inside)]
    split at h
    · rwa [if_pos ‹_›]
    · split at h
      · rwa [if_neg ‹_›, if_pos ‹_›]
      · split at h
        · next found => rwa [if_neg ‹_›, if_neg ‹_›, if_pos (isSome_insert parent free found)]
        · cases h
  · cases h

theorem foldlM_insert :
    ∀ {pieces : List Octets} {here there : List FileName},
      pieces.foldlM root.step? here = some there →
      pieces.foldlM (root.insert (directory ++ [name]) .empty).step? here = some there
  | [], _, _, h => h
  | piece :: pieces, here, there, h => by
    rw [List.foldlM_cons] at h ⊢
    obtain ⟨next, hnext, h⟩ := Option.bind_eq_some_iff.1 h
    rw [step?_insert parent free hnext]
    exact foldlM_insert h

end Node

/-- What is made is an empty directory. The path led nowhere and leads there now. -/
theorem of_createDirectory {root made : Node} (linkless : root.Linkless) {path : Path}
    (absolute : path.isAbsolute = true) {base : Location}
    (h : createDirectory root base path = .ok made) :
    ∃ directory name, made = root.insert (directory ++ [name]) .empty ∧
      root.hasDirectory directory = true ∧ root.at? (directory ++ [name]) = none ∧
      root.reach? path = none ∧
      ∀ follow, locate made base path follow = .ok (directory ++ [name]) := by
  unfold createDirectory at h
  split at h
  · cases h
  · next short =>
    split at h
    · cases h
    · cases h
    · next directory name walked =>
      cases h
      obtain ⟨-, -, names, before, hpieces, walked, inside, free, hdot, hdots⟩ :=
        (walk_eq_free linkless (isAbsolute_dropLastSlashes absolute)).1 walked
      rw [pieces_dropLastSlashes] at hpieces names
      have blocked : root.step? directory.reverse name = none :=
        (Node.step?_eq_none (by rwa [List.reverse_reverse])).2
          ⟨hdot, hdots, by rwa [List.reverse_reverse]⟩
      refine ⟨directory, name, rfl, inside, free, ?_, fun follow => ?_⟩
      · simp [Node.reach?, hpieces, walked, blocked]
      · have new := Node.at?_insert_self inside free
        have last : (root.insert (directory ++ [name]) .empty).step? directory.reverse name =
            some (name :: directory.reverse) := by
          simp only [Node.step?, List.reverse_cons, List.reverse_reverse,
            Node.hasDirectory_insert inside free inside, new, hdot, hdots, if_true, if_false,
            Option.isSome_some]
        have reached : (root.insert (directory ++ [name]) .empty).reach? path =
            some (directory ++ [name]) := by
          rw [Node.reach?_eq_some, hpieces, List.foldlM_append,
            Node.foldlM_insert inside free walked]
          simp [last]
        exact (locate_eq_ok (Node.Linkless.insert inside free linkless) absolute).2
          ⟨reached, fun _ => Node.hasDirectory_eq_true.2 ⟨_, new⟩, Nat.lt_of_not_le short, names⟩

end FileTree

/-! ## Making directories on a machine -/

namespace Machine

theorem createDirectory_eq (path : Path) (m : Machine) :
    createDirectory path m =
      if hasNul path then (.error nulInName, m)
      else match FileTree.createDirectory m.root m.here path with
        | .error e => (.error e, m)
        | .ok root => (.ok (), { m with root }) := by
  unfold createDirectory
  split
  · rfl
  · simp only [bind, StateT.bind, get, getThe, MonadStateOf.get, StateT.get, pure]
    cases FileTree.createDirectory m.root m.here path <;> rfl

/-- Something has the name that a path leads to, be it a link. -/
theorem occupied_eq_true {path : Path} {m : Machine} :
    (occupied path m).1 = true ↔
      hasNul path = false ∧ ∃ location, locate m.root m.here path false = .ok location := by
  show (!hasNul path && FileTree.isOccupied m.root m.here path) = true ↔ _
  cases h : locate m.root m.here path false <;>
    simp [FileTree.isOccupied, FileTree.find, h, Except.map]

/-- The machine with a new empty directory at the location. -/
def withDirectory (m : Machine) (location : Location) : Machine :=
  { m with root := m.root.insert location .empty }

/-- The machine `made` is `m` with one more directory, an empty one: the path led nowhere, and now it
leads there. -/
structure Gains (m : Machine) (path : Path) (location : Location) (made : Machine) : Prop where
  free : m.root.at? location = none
  eq_withDirectory : made = m.withDirectory location
  frame : ∀ other ≠ location, (made.root.at? other).map FileTree.Node.bare =
    (m.root.at? other).map FileTree.Node.bare
  linkless : made.root.Linkless
  vacant : (Machine.occupied path m).1 = false
  occupied : (Machine.occupied path made).1 = true
  leads : made.LeadsTo path location []

/-- **What it is to make a directory**, in a tree without links. -/
theorem gains_of_createDirectory {m made : Machine} {path : Path} (linkless : m.root.Linkless)
    (absolute : path.isAbsolute = true) (h : createDirectory path m = (.ok (), made)) :
    ∃ location, m.Gains path location made := by
  rw [createDirectory_eq] at h
  split at h
  · cases h
  · next noNul =>
    have noNul : hasNul path = false := Bool.of_not_eq_true noNul
    split at h
    · cases h
    · next root hroot =>
      obtain ⟨directory, name, rfl, inside, free, nowhere, located⟩ :=
        FileTree.of_createDirectory linkless absolute hroot
      obtain rfl := (Prod.mk.inj h).2
      exact ⟨directory ++ [name],
        { free
          eq_withDirectory := rfl
          frame := fun other hother => by
            rw [FileTree.Node.bare_at?_insert inside free, if_neg hother]
          linkless := FileTree.Node.Linkless.insert inside free linkless
          vacant := by
            refine Bool.of_not_eq_true fun taken => ?_
            obtain ⟨location, found⟩ := (occupied_eq_true.1 taken).2
            have reached := ((FileTree.locate_eq_ok linkless absolute).1 found).1
            simp [nowhere] at reached
          occupied := occupied_eq_true.2 ⟨noNul, _, located false⟩
          leads := ⟨noNul, located true, FileTree.Node.at?_insert_self inside free⟩ }⟩

end Machine

namespace Command

variable {σ : Type} {host : Host σ} {run : Run σ} {name : String}

/-- `mkdir` has succeeded: the machine has made the directory. -/
theorem of_makeDirectory_ok (named : Text.isBlankText name = false)
    (made : ((makeDirectory host name).perform run).1 = .ok .proceed) :
    let path := run.session.directory.join (.ofString name)
    let asked := run.after (host.occupied path)
    asked.answer (host.createDirectory path) = .ok () ∧
      ((makeDirectory host name).perform run).2 = (asked.after (host.createDirectory path)).told
        [.append (.plain ("Folder '" ++ name ++ "' created."))] := by
  intro path asked
  rw [perform_makeDirectory] at made ⊢
  dsimp only at made ⊢
  simp only [named, Bool.false_eq_true, if_false] at made ⊢
  split at made
  · cases made
  · next free =>
    rw [if_neg free]
    split at made
    · cases made
    · next answered => exact ⟨answered, rfl⟩

/-- In a tree without links, `mkdir` succeeds where the machine makes a directory when it is asked
alone: looking first does not get in the way. -/
theorem makeDirectory_proceeds {home : Option Path} {runner : Runner Machine} {run : Run Machine}
    {made : Machine} (linkless : run.host.root.Linkless)
    (absolute : run.session.directory.isAbsolute = true) (named : Text.isBlankText name = false)
    (created : Machine.createDirectory (run.session.directory.join (.ofString name)) run.host =
      (.ok (), made)) :
    ((makeDirectory (Machine.host home runner) name).perform run).1 = .ok .proceed := by
  obtain ⟨location, gains⟩ :=
    Machine.gains_of_createDirectory linkless (Path.isAbsolute_join absolute _) created
  have vacant : run.answer ((Machine.host home runner).occupied
      (run.session.directory.join (.ofString name))) = false := gains.vacant
  have answered : (run.after ((Machine.host home runner).occupied
      (run.session.directory.join (.ofString name)))).answer
        ((Machine.host home runner).createDirectory
          (run.session.directory.join (.ofString name))) = .ok () := congrArg Prod.fst created
  rw [perform_makeDirectory]
  simp [named, vacant, answered]

/-- `mkdir` fails at a name that something has. -/
theorem makeDirectory_of_occupied (named : Text.isBlankText name = false)
    (occupied : run.answer (host.occupied (run.session.directory.join (.ofString name))) = true) :
    (makeDirectory host name).perform run = (.error (.alreadyExists name),
      run.after (host.occupied (run.session.directory.join (.ofString name)))) := by
  rw [perform_makeDirectory]
  simp [named, occupied]

end Command

/-- **A new directory is found.** Let `mkdir` succeed with a name that is neither blank nor a home
path, in a tree without links. Then the machine has gained one empty directory where nothing was, and
the name leads there. By the same name `mkdir` now fails and leaves all as it is, `cd` moves the
session to the new directory, and `ls` writes its header alone. -/
theorem new_directory_is_found (home : Option Path) (runner : Runner Machine) (run : Run Machine)
    (name : String) (absolute : run.session.directory.isAbsolute = true)
    (linkless : run.host.root.Linkless) (named : Text.isBlankText name = false)
    (literal : Path.isHomePath name = false) :
    let host := Machine.host home runner
    let made := (Command.makeDirectory host name).perform run
    let after := made.2
    let moved := (Command.changeDirectory host name).perform after
    made.1 = .ok .proceed →
    ∃ location,
      run.host.Gains (run.session.directory.join (.ofString name)) location after.host ∧
      after.session = run.session ∧
      (Command.makeDirectory host name).perform after = (.error (.alreadyExists name), after) ∧
      (moved.1 = .ok .proceed ∧ moved.2.host = after.host ∧
        after.host.LeadsTo moved.2.session.directory location []) ∧
      ∃ target, after.host.LeadsTo target location [] ∧
        (Command.list host name).perform after = (.ok .proceed,
          after.told [.append (.plain ("Contents of '" ++ target.display ++ "':"))]) := by
  intro host made after moved success
  obtain ⟨answered, hafter⟩ := Command.of_makeDirectory_ok named success
  set path := run.session.directory.join (.ofString name) with hpath
  have absolute' : path.isAbsolute = true := Path.isAbsolute_join absolute _
  have same : after.session = run.session := by
    rw [show after = _ from hafter]
    rfl
  have created : Machine.createDirectory path run.host = (.ok (), after.host) := by
    rw [show after = _ from hafter]
    exact Prod.ext answered rfl
  obtain ⟨location, gains⟩ := Machine.gains_of_createDirectory linkless absolute' created
  have resolved : Path.resolve home after.session.directory name = some path.normalize := by
    rw [same]
    exact Path.resolve_of_not_home literal home run.session.directory
  have leads := gains.leads.normalize gains.linkless absolute'
  have taken : after.answer
      (host.occupied (after.session.directory.join (.ofString name))) = true := by
    rw [same]
    exact gains.occupied
  exact ⟨location, gains, same, Command.makeDirectory_of_occupied named taken,
    Command.changeDirectory_of_leadsTo named resolved leads, path.normalize, leads,
    Command.list_of_leadsTo named resolved leads⟩

/-- Down, up again and down to a name that is free, with slashes behind it. -/
theorem new_directory_logs :
    let name := "srv/..//srv/./logs//"
    let made := (Command.makeDirectory Machine.quietHost name).perform .small
    let moved := (Command.changeDirectory Machine.quietHost name).perform made.2
    Text.isBlankText name = false ∧ Path.isHomePath name = false ∧ made.1 = .ok .proceed ∧
      moved.1 = .ok .proceed ∧ ∃ location,
        Machine.small.Gains (Path.root.join (.ofString name)) location made.2.host ∧
        made.2.host.LeadsTo moved.2.session.directory location [] := by
  intro name made moved
  have linkless := Machine.linkless_small
  have named : Text.isBlankText name = false := by decide
  have literal : Path.isHomePath name = false := by decide
  have walked : FileTree.walk Machine.small.root Machine.small.here
      (FileTree.dropLastSlashes (Path.root.join (.ofString name))) false =
        .ok (.free [Text.encode "srv"] (Text.encode "logs")) :=
    (FileTree.walk_eq_free linkless (by decide)).2
      ⟨by decide, by decide, by decide,
        [Text.encode "srv", FileTree.twoDots, Text.encode "srv", FileTree.oneDot],
        by decide +kernel, by decide +kernel, by decide, by decide, by decide, by decide⟩
  have created : Machine.createDirectory (Path.root.join (.ofString name)) .small =
      (.ok (), Machine.small.withDirectory [Text.encode "srv", Text.encode "logs"]) := by
    have inserted : FileTree.createDirectory Machine.small.root Machine.small.here
        (Path.root.join (.ofString name)) =
          .ok (Machine.small.root.insert [Text.encode "srv", Text.encode "logs"] .empty) := by
      rw [FileTree.createDirectory, if_neg (by decide), walked]
      rfl
    rw [Machine.createDirectory_eq, if_neg (by decide), inserted]
    rfl
  have success : made.1 = .ok .proceed :=
    Command.makeDirectory_proceeds linkless rfl named created
  obtain ⟨location, gains, -, -, ⟨arrives, -, there⟩, -⟩ :=
    new_directory_is_found none (fun _ _ => pure (.ok {})) .small name rfl linkless named literal
      success
  exact ⟨named, literal, success, arrives, location, gains, there⟩

end ThemedShell
