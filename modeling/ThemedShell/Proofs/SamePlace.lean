import ThemedShell.Machine
import ThemedShell.Proofs.Resolution
import ThemedShell.Proofs.Walk

/-!
# One place by two paths

In a tree without links, a path that leads to a directory and its normal form lead to the same
directory. So `cd` and `ls`, which go by the normal form of what the user has written, act on the
directory that the machine would have found by the path itself; but an argument of blanks is none to
them, and they are about the current directory (`argument_leads_to_its_place`).
-/
namespace ThemedShell

open FileTree (Location locate hasNul)

/-! ## Directories that a machine finds -/

namespace Machine

/-- The machine finds a directory with these entries at the location, by way of the path. -/
structure LeadsTo (m : Machine) (path : Path) (location : Location)
    (entries : FileTree.Entries) : Prop where
  noNul : hasNul path = false
  located : locate m.root m.here path true = .ok location
  directory : m.root.at? location = some (.directory entries)

variable {m : Machine} {path other : Path} {location : Location} {entries : FileTree.Entries}

theorem isDirectory_eq_true {path : Path} {m : Machine} :
    (isDirectory path m).1 = true ↔ hasNul path = false ∧
      ∃ location, locate m.root m.here path true = .ok location ∧
        ((m.root.at? location).getD .empty).isDirectory = true := by
  show (!hasNul path && FileTree.isDirectoryAt m.root m.here path) = true ↔ _
  cases h : locate m.root m.here path true <;>
    simp [FileTree.isDirectoryAt, FileTree.find, h, Except.map]

theorem LeadsTo.isDirectory (h : m.LeadsTo path location entries) :
    (isDirectory path m).1 = true :=
  isDirectory_eq_true.2 ⟨h.noNul, location, h.located, by rw [h.directory]; rfl⟩

theorem listDirectory_eq (path : Path) (m : Machine) :
    listDirectory path m =
      (if hasNul path then .error nulInName
        else (FileTree.listDirectory m.root m.here path).map (·.map .ok), m) := by
  unfold listDirectory
  split
  · rfl
  · simp only [bind, StateT.bind, get, getThe, MonadStateOf.get, StateT.get, pure]
    cases FileTree.listDirectory m.root m.here path <;> rfl

theorem LeadsTo.listDirectory (h : m.LeadsTo path location entries) :
    listDirectory path m = (.ok (entries.names.map .ok), m) := by
  simp [listDirectory_eq, FileTree.listDirectory, FileTree.find, h.noNul, h.located, h.directory,
    Except.map]

/-- In a tree without links, absolute paths lead to the directories that the machine says are
there. -/
theorem exists_leadsTo (linkless : m.root.Linkless) (absolute : path.isAbsolute = true)
    (h : (Machine.isDirectory path m).1 = true) :
    ∃ location entries, m.LeadsTo path location entries := by
  obtain ⟨noNul, location, located, h⟩ := isDirectory_eq_true.1 h
  have reached := ((FileTree.locate_eq_ok linkless absolute).1 located).1
  obtain ⟨node, hnode⟩ := Option.isSome_iff_exists.1 (FileTree.Node.isSome_of_reach? reached)
  rw [hnode, Option.getD_some] at h
  cases node with
  | directory entries => exact ⟨location, entries, noNul, located, hnode⟩
  | _ => cases h

/-- A path that holds no more than another and leads to the same place leads to the same
directory. -/
theorem LeadsTo.of_reach? (h : m.LeadsTo path location entries) (linkless : m.root.Linkless)
    (absolute : path.isAbsolute = true) (absolute' : other.isAbsolute = true)
    (reached : m.root.reach? other = some location)
    (bytes : other.bytes.Sublist path.bytes) (pieces : other.pieces ⊆ path.pieces) :
    m.LeadsTo other location entries := by
  obtain ⟨-, -, short, names⟩ := (FileTree.locate_eq_ok linkless absolute).1 h.located
  refine ⟨?_, (FileTree.locate_eq_ok linkless absolute').2 ⟨reached, fun _ => ?_, ?_, ?_⟩,
    h.directory⟩
  · have := h.noNul
    simp only [hasNul, List.contains_eq_mem, decide_eq_false_iff_not] at this ⊢
    exact fun mem => this (bytes.subset mem)
  · exact FileTree.Node.hasDirectory_eq_true.2 ⟨entries, h.directory⟩
  · exact Nat.lt_of_le_of_lt bytes.length_le short
  · exact fun piece hpiece => names piece (pieces hpiece)

/-- **The normal form of a path leads to the same directory.** -/
theorem LeadsTo.normalize (h : m.LeadsTo path location entries) (linkless : m.root.Linkless)
    (absolute : path.isAbsolute = true) : m.LeadsTo path.normalize location entries := by
  have reached := ((FileTree.locate_eq_ok linkless absolute).1 h.located).1
  refine h.of_reach? linkless absolute (by rwa [Path.isAbsolute_normalize])
    (FileTree.Node.reach?_normalize reached) (Path.bytes_normalize_sublist absolute) ?_
  rw [Path.normalize, Path.pieces_ofNames fun _ hname => Path.isName_of_mem_normalNames hname]
  exact (Path.normalNames_sublist path).subset

/-- Nothing written behind a path leads where the path leads. -/
theorem LeadsTo.of_join_empty (h : m.LeadsTo (path.join (.ofString "")) location entries)
    (linkless : m.root.Linkless) (absolute : path.isAbsolute = true) :
    m.LeadsTo path location entries := by
  have joined : path.join (.ofString "") =
      ⟨path.bytes ++ if path.needsSlash then [Path.slash] else []⟩ := by
    rw [Path.join_of_relative (by decide)]
    simp [Path.ofString, Text.encode]
  have pieces : (path.join (.ofString "")).pieces = path.pieces := by
    rw [joined]
    split
    · simpa [Path.pieces] using Path.pieces_slash path.bytes []
    · simp
  have reached := ((FileTree.locate_eq_ok linkless (Path.isAbsolute_join absolute _)).1 h.located).1
  refine h.of_reach? linkless (Path.isAbsolute_join absolute _) absolute ?_ ?_ ?_
  · rwa [FileTree.Node.reach?, pieces] at reached
  · rw [joined]
    exact List.sublist_append_left _ _
  · rw [pieces]
    exact List.Subset.refl _

end Machine

/-! ## Commands on a machine -/

namespace Command

variable {σ : Type}

/-- The listing of entries, told apart by what is said of them. -/
def Listing.ofNames (isDirectory : FileName → Bool) (names : List FileName) : Listing where
  directories := names.filter isDirectory
  others := names.filter fun name => !isDirectory name

/-- A machine that does not change when it is asked for directories answers as it would at first. -/
theorem classify_of_steady (host : Host σ) (steady : ∀ path s, (host.isDirectory path s).2 = s)
    (target : Path) (run : Run σ) (names : List FileName) :
    run.answer (classify host target names) =
      names.map (fun name => (name, run.answer (host.isDirectory (target.entry name)))) ∧
    run.after (classify host target names) = run := by
  have after : ∀ path, run.after (host.isDirectory path) = run := fun path => by
    rw [Run.after, steady]
  induction names with
  | nil => exact ⟨rfl, rfl⟩
  | cons name rest ih =>
    obtain ⟨answered, left⟩ := classify_cons host target name rest run
    rw [answered, left, after, ih.1, ih.2]
    exact ⟨rfl, rfl⟩

variable {home : Option Path} {runner : Runner Machine} {run : Run Machine} {argument : String}
  {target : Path} {location : Location} {entries : FileTree.Entries}

/-- `ls` lists what is in the directory that the path leads to. -/
theorem listAt_of_leadsTo (leads : run.host.LeadsTo target location entries) :
    (listAt (Machine.host home runner) argument target).perform run =
      (.ok .proceed, run.told ((Line.plain ("Contents of '" ++ target.display ++ "':") ::
        (Listing.ofNames (fun name => (Machine.isDirectory (target.entry name) run.host).1)
          entries.names).lines).map .append)) := by
  have found : run.answer ((Machine.host home runner).isDirectory target) = true :=
    leads.isDirectory
  have asked : run.after ((Machine.host home runner).isDirectory target) = run := rfl
  have listed : run.answer ((Machine.host home runner).listDirectory target) =
      .ok (entries.names.map .ok) := congrArg Prod.fst leads.listDirectory
  have opened : run.after ((Machine.host home runner).listDirectory target) = run :=
    congrArg (fun host => { run with host }) (congrArg Prod.snd leads.listDirectory)
  obtain ⟨sorted, same⟩ := classify_of_steady (Machine.host home runner) (fun _ _ => rfl) target run
    entries.names
  have told : Listing.ofEntries (run.answer (classify (Machine.host home runner) target
      entries.names)) = Listing.ofNames
        (fun name => (Machine.isDirectory (target.entry name) run.host).1) entries.names := by
    rw [sorted]
    simp only [Listing.ofEntries, Listing.ofNames, List.filter_map, List.map_map, Function.comp_def,
      List.map_id']
    rfl
  rw [perform_listAt, asked]
  dsimp only
  rw [if_pos found, listed, opened]
  dsimp only
  rw [readable_map_ok]
  dsimp only
  rw [same, told]

section

variable (named : Text.isBlankText argument = false)
  (resolved : Path.resolve home run.session.directory argument = some target)
  (leads : run.host.LeadsTo target location entries)
include named resolved leads

/-- `cd` moves the session to the directory that the argument is resolved to. -/
theorem changeDirectory_of_leadsTo :
    let moved := (changeDirectory (Machine.host home runner) argument).perform run
    moved.1 = .ok .proceed ∧ moved.2.host = run.host ∧
      run.host.LeadsTo moved.2.session.directory location entries := by
  have found : run.answer ((Machine.host home runner).isDirectory target) = true :=
    leads.isDirectory
  obtain ⟨arrived, same⟩ := changeDirectory_arrives named resolved found
  refine ⟨(changeDirectory_succeeds named resolved).2 found, same, ?_⟩
  rw [arrived]
  exact leads

/-- `ls` lists the directory that the argument is resolved to. -/
theorem list_of_leadsTo :
    (list (Machine.host home runner) argument).perform run =
      (.ok .proceed, run.told ((Line.plain ("Contents of '" ++ target.display ++ "':") ::
        (Listing.ofNames (fun name => (Machine.isDirectory (target.entry name) run.host).1)
          entries.names).lines).map .append)) := by
  have named' : listTarget (Machine.host home runner).home run.session.directory argument =
      some target := by
    rw [listTarget, named, if_neg (by simp)]
    exact resolved
  rw [perform_list, named']
  exact listAt_of_leadsTo leads

end

/-- Without an argument, or with blanks for one, `ls` lists the current directory. -/
theorem list_of_blank {home : Option Path} {runner : Runner Machine} {argument : String}
    {run : Run Machine} {location : Location} {entries : FileTree.Entries}
    (blank : Text.isBlankText argument = true)
    (leads : run.host.LeadsTo run.session.directory location entries) :
    (list (Machine.host home runner) argument).perform run =
      (.ok .proceed, run.told
        ((Line.plain ("Contents of '" ++ run.session.directory.display ++ "':") ::
          (Listing.ofNames (fun name =>
              (Machine.isDirectory (run.session.directory.entry name) run.host).1)
            entries.names).lines).map .append)) := by
  rw [perform_list, listTarget, if_pos blank]
  exact listAt_of_leadsTo leads

end Command

/-! ## Arguments -/

/-- **An argument leads to its place.** Let an argument be no home path. If a walk by name along the
argument, as seen from a directory, ends somewhere, then so does the walk along the path that the
argument is resolved to, at the same place. In a tree without links, if the machine finds a directory
by the argument, and this is not blank but for the empty one, then `cd` succeeds and leads the session
to that directory, and `ls` succeeds and lists what is in it. With an argument that is blank, `cd`
shows the current directory and stays there, and `ls` lists the current directory. -/
theorem argument_leads_to_its_place (home : Option Path) (argument : String)
    (literal : Path.isHomePath argument = false) :
    (∀ (root : FileTree.Node) (base : Path) (location : Location),
      root.reach? (base.join (.ofString argument)) = some location →
      (root.at? location).isSome = true ∧
      ∃ target, Path.resolve home base argument = some target ∧
        root.reach? target = some location) ∧
    (∀ (runner : Runner Machine) (run : Run Machine),
      run.session.directory.isAbsolute = true → run.host.root.Linkless →
      argument = "" ∨ Text.isBlankText argument = false →
      let host := Machine.host home runner
      let meant := run.session.directory.join (.ofString argument)
      let moved := (Command.changeDirectory host argument).perform run
      (host.isDirectory meant run.host).1 = true →
      ∃ location entries, run.host.LeadsTo meant location entries ∧
        moved.1 = .ok .proceed ∧ moved.2.host = run.host ∧
        run.host.LeadsTo moved.2.session.directory location entries ∧
        ∃ target, run.host.LeadsTo target location entries ∧
          (Command.list host argument).perform run =
            (.ok .proceed, run.told ((Line.plain ("Contents of '" ++ target.display ++ "':") ::
              (Command.Listing.ofNames (fun name => (host.isDirectory (target.entry name) run.host).1)
                entries.names).lines).map .append))) ∧
    ∀ (runner : Runner Machine) (run : Run Machine), Text.isBlankText argument = true →
      let host := Machine.host home runner
      let here := run.session.directory
      (Command.changeDirectory host argument).perform run =
        (.ok .proceed, run.told [.append (.plain here.display)]) ∧
      (here.isAbsolute = true → run.host.root.Linkless →
        (host.isDirectory here run.host).1 = true →
        ∃ location entries, run.host.LeadsTo here location entries ∧
          (Command.list host argument).perform run =
            (.ok .proceed, run.told ((Line.plain ("Contents of '" ++ here.display ++ "':") ::
              (Command.Listing.ofNames (fun name => (host.isDirectory (here.entry name) run.host).1)
                entries.names).lines).map .append))) := by
  refine ⟨?_, ?_, ?_⟩
  · intro root base location reached
    exact ⟨FileTree.Node.isSome_of_reach? reached, _, Path.resolve_of_not_home literal home base,
      FileTree.Node.reach?_normalize reached⟩
  · intro runner run absolute linkless given host meant moved found
    have absolute' : meant.isAbsolute = true := Path.isAbsolute_join absolute _
    obtain ⟨location, entries, leads⟩ := Machine.exists_leadsTo linkless absolute' found
    refine ⟨location, entries, leads, ?_⟩
    rcases given with rfl | named
    · -- Without an argument both commands are about the current directory.
      have here := leads.of_join_empty linkless absolute
      exact ⟨rfl, rfl, here, run.session.directory, here, Command.list_of_blank rfl here⟩
    · have resolved : Path.resolve home run.session.directory argument = some meant.normalize :=
        Path.resolve_of_not_home literal home run.session.directory
      have leads' := leads.normalize linkless absolute'
      obtain ⟨proceeds, same, there⟩ := Command.changeDirectory_of_leadsTo named resolved leads'
      exact ⟨proceeds, same, there, meant.normalize, leads',
        Command.list_of_leadsTo named resolved leads'⟩
  · intro runner run blank host here
    refine ⟨?_, fun absolute linkless found => ?_⟩
    · rw [Command.perform_changeDirectory, if_pos blank]
    · obtain ⟨location, entries, leads⟩ := Machine.exists_leadsTo linkless absolute found
      exact ⟨location, entries, leads, Command.list_of_blank blank leads⟩

/-! ## A small machine -/

namespace Machine

/-- The directory `/srv/www` with a file beside it, and a directory that is called by a blank. -/
def small : Machine where
  root := .directory
    [(Text.encode "srv", .directory
      [(Text.encode "www", .directory []), (Text.encode "note", .file .empty false)]),
    (Text.encode " ", .directory [])]

theorem linkless_small : small.root.Linkless := by
  refine FileTree.Node.linkless_directory fun entry hentry => ?_
  rcases List.mem_pair.1 hentry with rfl | rfl
  · refine FileTree.Node.linkless_directory fun entry hentry => ?_
    rcases List.mem_pair.1 hentry with rfl | rfl
    · exact FileTree.Node.linkless_directory (by simp)
    · exact FileTree.Node.linkless_file _ _
  · exact FileTree.Node.linkless_directory (by simp)

/-- A host on which every command line runs well. -/
def quietHost : Host Machine := host none fun _ _ => pure (.ok {})

end Machine

def Run.small : Run Machine := { session := { directory := .root }, host := .small }

/-- Down, up again and down to a directory; and a blank, which leads nowhere. -/
theorem argument_leads_to_www :
    let argument := "srv/../srv//./www/"
    let meant := Path.root.join (.ofString argument)
    let location := [Text.encode "srv", Text.encode "www"]
    let moved := (Command.changeDirectory Machine.quietHost argument).perform .small
    Path.isHomePath argument = false ∧ Machine.small.root.reach? meant = some location ∧
      Text.isBlankText argument = false ∧
      (Machine.quietHost.isDirectory meant .small).1 = true ∧
      (∃ target, Path.resolve none .root argument = some target ∧
        Machine.small.root.reach? target = some location) ∧
      moved.1 = .ok .proceed ∧
      (∃ location entries, Machine.small.LeadsTo meant location entries ∧
        Machine.small.LeadsTo moved.2.session.directory location entries) ∧
      Path.isHomePath " " = false ∧ Text.isBlankText " " = true ∧
      (Command.changeDirectory Machine.quietHost " ").perform .small =
        (.ok .proceed, Run.small.told [.append (.plain Path.root.display)]) := by
  intro argument meant location moved
  have literal : Path.isHomePath argument = false := by decide
  have reached : Machine.small.root.reach? meant = some location := by decide +kernel
  have named : Text.isBlankText argument = false := by decide
  have leads : Machine.small.LeadsTo meant location [] :=
    ⟨by decide, (FileTree.locate_eq_ok Machine.linkless_small (Path.isAbsolute_join rfl _)).2
      (by decide +kernel), rfl⟩
  have found : (Machine.quietHost.isDirectory meant .small).1 = true := leads.isDirectory
  have all := argument_leads_to_its_place none argument literal
  obtain ⟨place, entries, there, proceeds, -, here, -⟩ :=
    all.2.1 (fun _ _ => pure (.ok {})) .small rfl Machine.linkless_small (.inr named) found
  have blanks := argument_leads_to_its_place none " " (by decide)
  exact ⟨literal, reached, named, found, (all.1 _ _ _ reached).2, proceeds,
    ⟨place, entries, there, here⟩, by decide, by decide,
    (blanks.2.2 (fun _ _ => pure (.ok {})) .small (by decide)).1⟩

/-- A name of blanks is taken for no argument: the machine finds a directory by it, but `cd` stays at
the root and `ls` lists the root. -/
theorem blank_name_is_passed_over :
    let meant := Path.root.join (.ofString " ")
    let moved := (Command.changeDirectory Machine.quietHost " ").perform .small
    let listed := (Command.list Machine.quietHost " ").perform .small
    Path.isHomePath " " = false ∧ Machine.small.root.Linkless ∧
      Machine.small.LeadsTo meant [Text.encode " "] [] ∧
      (Machine.quietHost.isDirectory meant .small).1 = true ∧
      moved.1 = .ok .proceed ∧
      (∀ entries, ¬ Machine.small.LeadsTo moved.2.session.directory [Text.encode " "] entries) ∧
      listed = (.ok .proceed, Run.small.told ((Line.plain "Contents of '/':" ::
        Command.Listing.lines ⟨[Text.encode "srv", Text.encode " "], []⟩).map .append)) := by
  intro meant moved listed
  have linkless := Machine.linkless_small
  have leads : Machine.small.LeadsTo meant [Text.encode " "] [] :=
    ⟨by decide, (FileTree.locate_eq_ok linkless (Path.isAbsolute_join rfl _)).2 (by decide +kernel),
      rfl⟩
  have srv : Machine.small.LeadsTo (Path.root.entry (Text.encode "srv")) [Text.encode "srv"] _ :=
    ⟨by decide, (FileTree.locate_eq_ok linkless (Path.isAbsolute_join rfl _)).2 (by decide +kernel),
      rfl⟩
  have root : Run.small.host.LeadsTo .root [] _ :=
    ⟨by decide, (FileTree.locate_eq_ok linkless rfl).2 (by decide +kernel), rfl⟩
  refine ⟨by decide, linkless, leads, leads.isDirectory, rfl, fun entries there => ?_, ?_⟩
  · exact absurd (there.located.symm.trans root.located) (by decide)
  · have listing : Command.Listing.ofNames
        (fun name => (Machine.isDirectory (Path.root.entry name) .small).1)
        [Text.encode "srv", Text.encode " "] = ⟨[Text.encode "srv", Text.encode " "], []⟩ := by
      have blank : (Machine.isDirectory (Path.root.entry (Text.encode " ")) .small).1 = true :=
        leads.isDirectory
      simp [Command.Listing.ofNames, srv.isDirectory, blank]
    have header : "Contents of '" ++ Path.root.display ++ "':" = "Contents of '/':" := by decide
    rw [← listing, ← header]
    exact (Command.perform_list Machine.quietHost " " .small).trans (Command.listAt_of_leadsTo root)

end ThemedShell
