import ThemedShell.Proofs.Action

/-!
# What each command comes to

One equation for each command: its result and the run it leaves, as a case distinction over what
the machine answers. Everything else about commands is derived from these equations.
-/
namespace ThemedShell

variable {σ : Type}

theorem Session.enter?_eq (host : Host σ) (session : Session) (target : Path) (s : σ) :
    session.enter? host target s =
      (if (host.isDirectory target s).1 then some { session with directory := target } else none,
        (host.isDirectory target s).2) := by
  simp only [Session.enter?, bind, StateT.bind]
  cases host.isDirectory target s with
  | mk answer t => cases answer <;> rfl

/-- A session starts where it has been asked to, in the first theme. -/
theorem Session.eq_of_start? {host : Host σ} {directory : Path} {s : σ} {session : Session}
    (h : (Session.start? host directory s).1 = some session) : session = { directory } := by
  unfold Session.start? at h
  split at h
  · simp only [bind, StateT.bind] at h
    cases hasked : host.isDirectory directory s with
    | mk answer t =>
      rw [hasked] at h
      cases answer with
      | true => exact (Option.some.inj h).symm
      | false => cases h
  · cases h

namespace Command

/-! ## Directories -/

theorem perform_resolve (host : Host σ) (argument : String) (run : Run σ) :
    (resolve host argument).perform run =
      match Path.resolve host.home run.session.directory argument with
      | some path => (.ok path, run)
      | none => (.error (.path .homeNotFound), run) := by
  simp only [resolve, Action.perform_bind, Action.perform_session]
  cases Path.resolve host.home run.session.directory argument <;> rfl

theorem perform_changeDirectory (host : Host σ) (argument : String) (run : Run σ) :
    (changeDirectory host argument).perform run =
      if Text.isBlankText argument then
        (.ok .proceed, run.told [.append (.plain run.session.directory.display)])
      else match Path.resolve host.home run.session.directory argument with
        | none => (.error (.path .homeNotFound), run)
        | some target =>
          if run.answer (host.isDirectory target) then
            (.ok .proceed,
              ({ run.after (host.isDirectory target) with
                session := { run.session with directory := target } }.noted
                [.directoryChanged target]).told
                [.append (.plain ("Directory changed to: " ++ target.display))])
          else (.error (.pathNotFound argument), run.after (host.isDirectory target)) := by
  simp only [changeDirectory, Action.perform_bind, Action.perform_session]
  split
  · rfl
  · simp only [Action.perform_bind, perform_resolve]
    cases Path.resolve host.home run.session.directory argument with
    | none => rfl
    | some target =>
      simp only [Action.perform_ask, Run.answer, Run.after, Session.enter?_eq]
      by_cases h : (host.isDirectory target run.host).1 = true
      · simp only [h, if_true]; rfl
      · simp only [h]; rfl

/-- What `ls` lists: the directory that the argument names, or the current one. -/
def listTarget (home : Option Path) (here : Path) (argument : String) : Option Path :=
  if Text.isBlankText argument then some here else Path.resolve home here argument

/-- An entry once it is known whether it is a directory. -/
def Listing.add (listing : Listing) (name : FileName) (isDirectory : Bool) : Listing :=
  if isDirectory then { listing with directories := name :: listing.directories }
  else { listing with others := name :: listing.others }

theorem perform_sortEntries_cons (host : Host σ) (target : Path) (name : FileName)
    (rest : List (Except SystemError FileName)) (run : Run σ) :
    (sortEntries host target (.ok name :: rest)).perform run =
      match (sortEntries host target rest).perform
        (run.after (host.isDirectory (target.entry name))) with
      | (.ok listing, left) =>
        (.ok (listing.add name (run.answer (host.isDirectory (target.entry name)))), left)
      | (.error e, left) => (.error e, left) := by
  simp only [sortEntries, Action.perform_bind, Action.perform_ask]
  cases (sortEntries host target rest).perform _ with
  | mk result left =>
    cases result with
    | error e => rfl
    | ok listing =>
      cases h : run.answer (host.isDirectory (target.entry name)) <;> simp [Listing.add]

/-- The listing of entries that are known to be directories or not. -/
def Listing.ofEntries (entries : List (FileName × Bool)) : Listing where
  directories := (entries.filter (·.2)).map (·.1)
  others := (entries.filter (!·.2)).map (·.1)

theorem Listing.ofEntries_cons (name : FileName) (isDirectory : Bool)
    (entries : List (FileName × Bool)) :
    ofEntries ((name, isDirectory) :: entries) = (ofEntries entries).add name isDirectory := by
  cases isDirectory <;> rfl

/-- The names before the first entry that cannot be read, and why that one cannot. -/
def readable : List (Except SystemError FileName) → List FileName × Option SystemError
  | [] => ([], none)
  | .error source :: _ => ([], some source)
  | .ok name :: rest => (name :: (readable rest).1, (readable rest).2)

theorem readable_map_ok (names : List FileName) : readable (names.map .ok) = (names, none) := by
  induction names with
  | nil => rfl
  | cons name rest ih => rw [List.map_cons, readable, ih]

/-- Asks of one entry after the other whether it is a directory. -/
def classify (host : Host σ) (target : Path) (names : List FileName) :
    StateM σ (List (FileName × Bool)) :=
  names.mapM fun name => do return (name, ← host.isDirectory (target.entry name))

theorem classify_cons (host : Host σ) (target : Path) (name : FileName) (rest : List FileName)
    (run : Run σ) :
    let asked := run.after (host.isDirectory (target.entry name))
    run.answer (classify host target (name :: rest)) =
      (name, run.answer (host.isDirectory (target.entry name))) ::
        asked.answer (classify host target rest) ∧
    run.after (classify host target (name :: rest)) = asked.after (classify host target rest) := by
  rw [classify, List.mapM_cons]
  exact ⟨rfl, rfl⟩

/-- All entries before the first that cannot be read are asked about, and nothing else is done. -/
theorem perform_sortEntries (host : Host σ) (target : Path)
    (entries : List (Except SystemError FileName)) (run : Run σ) :
    (sortEntries host target entries).perform run =
      (match (readable entries).2 with
        | none => .ok (.ofEntries (run.answer (classify host target (readable entries).1)))
        | some source => .error (listingError source),
      run.after (classify host target (readable entries).1)) := by
  induction entries generalizing run with
  | nil => rfl
  | cons entry rest ih =>
    cases entry with
    | error source => rfl
    | ok name =>
      obtain ⟨answered, left⟩ := classify_cons host target name (readable rest).1 run
      rw [perform_sortEntries_cons, ih, readable, answered, left, Listing.ofEntries_cons]
      cases (readable rest).2 <;> rfl

/-- **Listing.** The entries are told apart if the directory can be opened, and shown if all of them
can be read. -/
theorem perform_listAt (host : Host σ) (argument : String) (target : Path) (run : Run σ) :
    (listAt host argument target).perform run =
      let asked := run.after (host.isDirectory target)
      let opened := asked.after (host.listDirectory target)
      if run.answer (host.isDirectory target) then
        match asked.answer (host.listDirectory target) with
        | .error source => (.error (listingError source), opened)
        | .ok entries =>
          let sorted := classify host target (readable entries).1
          match (readable entries).2 with
          | some source => (.error (listingError source), opened.after sorted)
          | none => (.ok .proceed, (opened.after sorted).told
            ((Line.plain ("Contents of '" ++ target.display ++ "':")
              :: (Listing.ofEntries (opened.answer sorted)).lines).map .append))
      else
        (.error (.pathNotFound (if Text.isBlankText argument then target.display else argument)),
          asked) := by
  simp only [listAt, Action.perform_bind, Action.perform_ask]
  split
  · simp only [Action.perform_bind, Action.perform_ask]
    cases (run.after (host.isDirectory target)).answer (host.listDirectory target) with
    | error source => rfl
    | ok entries =>
      simp only [Action.perform_bind, perform_sortEntries]
      cases (readable entries).2 <;> rfl
  · rfl

theorem perform_list (host : Host σ) (argument : String) (run : Run σ) :
    (list host argument).perform run =
      match listTarget host.home run.session.directory argument with
      | none => (.error (.path .homeNotFound), run)
      | some target => (listAt host argument target).perform run := by
  simp only [list, listTarget, Action.perform_bind, Action.perform_session]
  split
  · rfl
  · simp only [Action.perform_bind, perform_resolve]
    cases Path.resolve host.home run.session.directory argument <;> rfl

theorem perform_makeDirectory (host : Host σ) (argument : String) (run : Run σ) :
    (makeDirectory host argument).perform run =
      let path := run.session.directory.join (.ofString argument)
      let asked := run.after (host.occupied path)
      let left := asked.after (host.createDirectory path)
      if Text.isBlankText argument then
        (.ok .proceed, run.told [.append (.warning "Usage: mkdir <folder_name>")])
      else if run.answer (host.occupied path) then (.error (.alreadyExists argument), asked)
      else match asked.answer (host.createDirectory path) with
        | .error source => (.error (creationError argument source), left)
        | .ok () => (.ok .proceed,
          left.told [.append (.plain ("Folder '" ++ argument ++ "' created."))]) := by
  unfold makeDirectory
  split
  · rfl
  · simp only [Action.perform_bind, Action.perform_session, Action.perform_ask]
    split
    · rfl
    · simp only [Action.perform_bind, Action.perform_ask]
      cases Run.answer _ (host.createDirectory _) <;> rfl

/-! ## External commands -/

theorem perform_runExternal (host : Host σ) (commandLine : String) (run : Run σ) :
    (runExternal host commandLine).perform run =
      let question := host.launch commandLine run.session.directory
      match run.answer question with
      | .error cause => (.error (.external cause), run.after question)
      | .ok result => (.ok .proceed, (run.after question).told ((render result).map .append)) := by
  simp only [runExternal, Action.perform_bind, Action.perform_session, Action.perform_ask]
  cases run.answer (host.launch commandLine run.session.directory) <;> rfl

theorem perform_exec (host : Host σ) (argument : String) (run : Run σ) :
    (exec host argument).perform run =
      if Text.isBlankText argument then
        (.ok .proceed, run.told [.append (.warning "Usage: exec <command> [args]")])
      else (runExternal host argument).perform run := by
  unfold exec
  split <;> rfl

/-! ## The surface -/

theorem perform_setColor (layer : Layer) (argument : String) (run : Run σ) :
    (setColor layer argument).perform run =
      match Color.parse argument with
      | .error unknown => (.error (.unrecognizedColor unknown.token (suggestions layer)), run)
      | .ok color =>
        let theme := run.session.theme.setLayer layer color
        (.ok .proceed,
          ({ run with session := { run.session with theme } }.noted [.themeChanged layer color]).told
            [.applyTheme theme,
              .append (.plain (layerName layer ++ " color changed to: " ++ color.name))]) := by
  unfold setColor
  cases Color.parse argument with
  | error unknown => rfl
  | ok color =>
    simp only [Action.perform_bind, Action.perform_session, Action.perform_setSession,
      Action.perform_tell, Action.perform_note, Action.perform_emit, Run.noted_told,
      Run.told_told]
    rfl

end Command

end ThemedShell
