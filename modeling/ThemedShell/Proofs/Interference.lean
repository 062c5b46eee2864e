import ThemedShell.Machine
import ThemedShell.Proofs.Creation
import ThemedShell.Proofs.NewDirectory

/-!
# Interference

While lines are taken, others work on the machine: `Host.amid` lets them act before each question.
`mkdir` looks first and then makes, so something may have taken the name in between. The machine then
refuses, and `mkdir` says of that what it says when it has seen it in time
(`Interpreter.execute_of_taken`). What lines do to the machine, as long as nothing is handed over to
be run, are therefore the directories of which they tell (`lines_only_add_directories`).
-/
namespace ThemedShell

variable {σ α : Type}

namespace Host

/-- A host whose questions change nothing, except that a directory may be made: where nothing has its
name. -/
structure MakesSafely (host : Host σ) : Prop where
  isDirectory : ∀ path s, (host.isDirectory path s).2 = s
  occupied : ∀ path s, (host.occupied path s).2 = s
  listDirectory : ∀ path s, (host.listDirectory path s).2 = s
  refuses : ∀ path s e, (host.createDirectory path s).1 = .error e →
    (host.createDirectory path s).2 = s
  taken : ∀ path s, (host.occupied path s).1 = true →
    ∃ e, (host.createDirectory path s).1 = .error e ∧ e.isExists = true

/-- The question is asked after the others have acted once more. -/
def after (others : Nat → σ → σ) (question : StateM σ α) : StateM (σ × Nat) α := fun (s, n) =>
  let (answer, t) := question (others n s)
  (answer, (t, n + 1))

/-- The same host, with others who act before each question. The number of questions so far tells
them what to do. -/
def amid (host : Host σ) (others : Nat → σ → σ) : Host (σ × Nat) :=
  { home := host.home
    isDirectory := fun path => after others (host.isDirectory path)
    occupied := fun path => after others (host.occupied path)
    createDirectory := fun path => after others (host.createDirectory path)
    listDirectory := fun path => after others (host.listDirectory path)
    launch := fun line directory => after others (host.launch line directory) }

variable {host : Host σ} {others : Nat → σ → σ}

/-- What others keep and what each new directory keeps, every question keeps that runs nothing. -/
theorem MakesSafely.keeps (safe : host.MakesSafely) {R : σ → σ → Prop} (refl : ∀ s, R s s)
    (trans : ∀ s t u, R s t → R t u → R s u) (acts : ∀ n s, R s (others n s))
    {kind : HostCall → Prop} (kept : ∀ call, kind call → call.launched? = none)
    (makes : ∀ call path, kind call → call.made? = some path →
      ∀ s t, host.createDirectory path s = (.ok (), t) → R s t) :
    (host.amid others).Keeps kind fun s t => R s.1 t.1 := by
  rintro ⟨s, n⟩ ⟨t, m⟩ call hkind move
  refine trans s (others n s) t (acts n s) ?_
  cases call with
  | isDirectory path answer =>
    have same : (host.isDirectory path (others n s)).2 = t := congrArg (·.2.1) move
    rw [← same, safe.isDirectory]
    exact refl _
  | occupied path answer =>
    have same : (host.occupied path (others n s)).2 = t := congrArg (·.2.1) move
    rw [← same, safe.occupied]
    exact refl _
  | listDirectory path answer =>
    have same : (host.listDirectory path (others n s)).2 = t := congrArg (·.2.1) move
    rw [← same, safe.listDirectory]
    exact refl _
  | createDirectory path answer =>
    have answered : (host.createDirectory path (others n s)).1 = answer := congrArg Prod.fst move
    have left : (host.createDirectory path (others n s)).2 = t := congrArg (·.2.1) move
    cases answer with
    | ok made => exact makes _ path hkind rfl _ _ (Prod.ext answered left)
    | error e =>
      rw [← left, safe.refuses _ _ e answered]
      exact refl _
  | launch line directory answer => exact absurd (kept _ hkind) (by simp [HostCall.launched?])

end Host

/-! ## Making a directory -/

/-- The name is taken when `mkdir` looks, or it has been taken when the directory is to be made. -/
def Host.Taken (host : Host σ) (others : Nat → σ → σ) (path : Path) (state : σ × Nat) : Prop :=
  let looking := others state.2 state.1
  let making := others (state.2 + 1) looking
  (host.occupied path looking).1 = true ∨ (host.occupied path making).1 = true

namespace Command

variable {host : Host σ} {others : Nat → σ → σ} {argument : String} {run : Run (σ × Nat)}

/-- Whether `mkdir` has seen in time that the name is taken or not: it fails for the same reason. -/
theorem makeDirectory_of_taken (safe : host.MakesSafely) (named : Text.isBlankText argument = false)
    (taken : host.Taken others (run.session.directory.join (.ofString argument)) run.host) :
    ∃ t, (makeDirectory (host.amid others) argument).perform run =
      (.error (.alreadyExists argument), { run with host := t }) := by
  obtain ⟨session, ⟨s, n⟩, calls, log⟩ := run
  rw [perform_makeDirectory]
  dsimp only
  rw [if_neg (by simp [named])]
  split
  · exact ⟨_, rfl⟩
  · next free =>
    obtain ⟨e, refused, existing⟩ := safe.taken _ _ (taken.resolve_left free)
    generalize session.directory.join (.ofString argument) = path at *
    have answered : ((⟨session, (s, n), calls, log⟩ : Run (σ × Nat)).after
        ((host.amid others).occupied path)).answer ((host.amid others).createDirectory path) =
          .error e := by
      show (host.createDirectory path (others (n + 1) (host.occupied path (others n s)).2)).1 = _
      rw [safe.occupied]
      exact refused
    rw [answered]
    simp only [creationError, existing, if_true]
    exact ⟨_, rfl⟩

end Command

namespace Interpreter

variable {host : Host σ} {line : String}

/-- The line names a directory to be made. -/
structure AsksForDirectory (line : String) : Prop where
  verb : (Submission.parse line).verb = "mkdir"
  argument : (Submission.parse line).argument ≠ ""

theorem AsksForDirectory.request (h : AsksForDirectory line) :
    Text.trim line ≠ "" ∧ Request.ofLine (Text.trim line) =
      .builtin .makeDirectory (Submission.parse line).argument ∧
    Text.isBlankText (Submission.parse line).argument = false := by
  refine ⟨fun blank => ?_, Request.verb_eq_iff.1 h.verb, Bool.of_not_eq_true fun blank =>
    h.argument ((Submission.isBlankText_argument line).1 blank)⟩
  have := h.verb
  simp [Submission.verb_of_blank blank] at this

theorem asked_of_asksForDirectory (h : AsksForDirectory line) (run : Run σ) :
    let path := run.session.directory.join (.ofString (Submission.parse line).argument)
    asked host line run = [.occupied path true] ∨
      ∃ answer, asked host line run = [.occupied path false, .createDirectory path answer] := by
  obtain ⟨nonblank, request, named⟩ := h.request
  rw [asked_eq, if_neg nonblank, request, Request.asked_makeDirectory, if_neg (by simp [named])]
  split
  · exact .inl rfl
  · exact .inr ⟨_, rfl⟩

theorem ne_createDirectory_of_asked (h : ¬AsksForDirectory line) (run : Run σ) :
    ∀ call ∈ asked host line run, ∀ path answer, call ≠ .createDirectory path answer := by
  rw [asked_eq]
  split
  · simp
  · by_cases other : ∀ argument, Request.ofLine (Text.trim line) ≠ .builtin .makeDirectory argument
    · exact Request.ne_createDirectory_of_asked other
    · obtain ⟨argument, request⟩ := not_forall_not.1 other
      obtain ⟨verb, rfl⟩ := Request.verb_of_builtin request
      have blank : Text.isBlankText (Submission.parse line).argument = true :=
        (Submission.isBlankText_argument line).2 (not_not.1 fun named => h ⟨verb, named⟩)
      rw [request, Request.asked_makeDirectory, if_pos blank]
      simp

section

variable {R : σ → σ → Prop} (refl : ∀ s, R s s) (trans : ∀ s t u, R s t → R t u → R s u)
include refl trans

/-- What is kept by all that a line asks holds from before the turn to after it. -/
theorem execute_keeps (line : String) (run : Run σ)
    (keeps : host.Keeps (· ∈ asked host line run) R) :
    R run.host (execute host line run).2.host := by
  rw [asked_eq] at keeps
  rw [execute_eq]
  split at keeps
  · next blank =>
    rw [if_pos blank]
    exact refl run.host
  · next nonblank =>
    rw [if_neg nonblank, host_finish]
    generalize Request.ofLine (Text.trim line) = request at keeps ⊢
    have exchange := (Request.asked_spec host request (opened line run)).2
    exact Host.Exchange.keeps refl trans keeps exchange fun _ h => h

/-- What is kept by all that lines ask holds from before the first to after the last. -/
theorem executeAll_keeps (lines : List String) (run : Run σ)
    (keeps : host.Keeps (· ∈ record host lines run) R) :
    R run.host (executeAll host lines run).host := by
  induction lines generalizing run with
  | nil => exact refl run.host
  | cons line rest ih =>
    rw [record] at keeps
    have first := execute_keeps refl trans line run
      (keeps.mono fun _ h => List.mem_append_left _ h)
    have others := ih (execute host line run).2 (keeps.mono fun _ h => List.mem_append_right _ h)
    exact trans _ _ _ first others

end

section

variable {others : Nat → σ → σ} {run : Run (σ × Nat)} (safe : host.MakesSafely)
  (h : AsksForDirectory line) (taken : host.Taken others
    (run.session.directory.join (.ofString (Submission.parse line).argument)) run.host)
include safe h taken

theorem perform_of_taken :
    ∃ t, (Request.ofLine (Text.trim line)).perform (host.amid others) run =
      (.error (.alreadyExists (Submission.parse line).argument), { run with host := t }) := by
  obtain ⟨-, request, named⟩ := h.request
  have performed : (Request.builtin .makeDirectory (Submission.parse line).argument).perform
      (host.amid others) run =
        (Command.makeDirectory (host.amid others) (Submission.parse line).argument).perform run :=
    rfl
  rw [request, performed]
  exact Command.makeDirectory_of_taken safe named taken

/-- A line that asks for a directory whose name is taken, in time or not, tells of that and of
nothing else. -/
theorem execute_of_taken :
    let failure := CommandError.alreadyExists (Submission.parse line).argument
    ∃ t, execute (host.amid others) line run =
      (.proceed, ({ run with host := t }.noted
        [route (Text.trim line), .commandFailed failure]).told
          [echoed line, .append (.error failure.message), prompted run.session]) := by
  have taken' : host.Taken others ((opened line run).session.directory.join
    (.ofString (Submission.parse line).argument)) (opened line run).host := taken
  obtain ⟨t, performed⟩ := perform_of_taken safe h taken'
  refine ⟨t, ?_⟩
  rw [execute_eq, if_neg h.request.1, performed, finish]
  simp [Run.told, Run.noted, opened]

theorem made?_of_taken : ∀ call ∈ asked (host.amid others) line run, call.made? = none := by
  obtain ⟨nonblank, request, -⟩ := h.request
  have taken' : host.Taken others ((opened line run).session.directory.join
    (.ofString (Submission.parse line).argument)) (opened line run).host := taken
  obtain ⟨t, performed⟩ := perform_of_taken safe h taken'
  rw [asked_eq, if_neg nonblank]
  rw [request] at performed ⊢
  intro call hcall
  have asks := (Request.asked_spec (host.amid others) _ (opened line run)).1 call hcall
  rw [performed] at asks
  cases call with
  | createDirectory path answer =>
    cases answer with
    | error e => rfl
    | ok made => exact absurd asks.2 (by simp [Except.isOk, Except.toBool])
  | _ => rfl

end

end Interpreter

/-! ## The machine makes safely -/

namespace FileTree

open Text (Octets)

/-- Where a walk finds something with a dot at its end, it does without it: to ask for a directory is
to ask for more. -/
theorem walkFrom_of_dot {root : Node} {location : Location} :
    ∀ (links : Nat) (here : List FileName) (path : List Octets),
      walkFrom root false links here (path ++ [oneDot]) = .ok (.occupied location) →
      ∃ other, walkFrom root false links here path = .ok (.occupied other)
  | _, here, [], _ => ⟨here.reverse, by rw [walkFrom]⟩
  | links, here, step :: rest, h => by
    rw [List.cons_append, walkFrom] at h
    rw [walkFrom]
    split at h
    · -- From a directory that has been removed only dots lead on.
      split at h
      · next dot =>
        rw [if_pos dot]
        exact walkFrom_of_dot links here rest h
      · next dot =>
        rw [if_neg dot]
        split at h
        · next dots =>
          rw [if_pos dots]
          exact walkFrom_of_dot links here.tail rest h
        · cases h
    · split at h
      · next dot =>
        rw [if_pos dot]
        exact walkFrom_of_dot links here rest h
      · next dot =>
        rw [if_neg dot]
        split at h
        · next dots =>
          rw [if_pos dots]
          exact walkFrom_of_dot links here.tail rest h
        · next dots =>
          rw [if_neg dots]
          split at h
          · cases h
          · next short =>
            rw [if_neg short]
            split at h
            · simp at h
            · -- Without the dot a link may stand at the very end, and then it is not followed.
              simp only [List.append_eq_nil_iff, List.cons_ne_self, and_false, decide_false,
                Bool.false_and, Bool.false_eq_true, if_false] at h
              split
              · exact ⟨_, rfl⟩
              · cases links with
                | zero => cases h
                | succ links =>
                  rw [← List.append_assoc] at h
                  exact walkFrom_of_dot links _ _ h
            · exact walkFrom_of_dot links _ rest h
    · cases h
termination_by links _ path => (links, path.length)

/-- Slashes at the end come to one dot more, if to anything. -/
theorem steps_dropLastSlashes (path : Path) :
    steps path = steps (dropLastSlashes path) ∨
      steps path = steps (dropLastSlashes path) ++ [oneDot] := by
  obtain ⟨slashes, last, hbytes, -⟩ := bytes_dropLastSlashes path
  rw [steps_eq, steps_eq, pieces_dropLastSlashes]
  by_cases ends : (dropLastSlashes path).bytes.getLast? = some Path.slash
  · have ends' : path.bytes.getLast? = some Path.slash := by
      rw [hbytes, List.getLast?_append, ends]
      cases h : slashes.getLast? with
      | none => rfl
      | some b =>
        rw [last b (List.mem_of_getLast? h)]
        rfl
    rw [if_pos ends, if_pos ends']
    exact .inl rfl
  · rw [if_neg ends, List.append_nil]
    split
    · exact .inr rfl
    · exact .inl (List.append_nil _)

theorem isAbsolute_dropLastSlashes_eq (path : Path) :
    (dropLastSlashes path).isAbsolute = path.isAbsolute := by
  refine Bool.eq_iff_iff.2 ⟨fun h => ?_, isAbsolute_dropLastSlashes⟩
  obtain ⟨slashes, -, hbytes, -⟩ := bytes_dropLastSlashes path
  obtain ⟨rest, hrest⟩ := Path.bytes_of_isAbsolute h
  simp [Path.isAbsolute, hbytes, hrest]

theorem walk_of_locate {root : Node} {base location : Location} {path : Path} {follow : Bool}
    (h : locate root base path follow = .ok location) :
    walk root base path follow = .ok (.occupied location) := by
  unfold locate at h
  split at h
  · cases h
  · cases h
  · next walked => rw [walked, Except.ok.inj h]

/-- A directory cannot be made where something has its name, be it a link that leads nowhere. -/
theorem createDirectory_of_locate {root : Node} {base location : Location} {path : Path}
    (h : locate root base path false = .ok location) :
    createDirectory root base path = .error .alreadyExists := by
  have walked := walk_of_locate h
  obtain ⟨slashes, -, hbytes, nonempty⟩ := bytes_dropLastSlashes path
  unfold walk at walked
  split at walked
  · cases walked
  · next named =>
    split at walked
    · cases walked
    · next short =>
      have shorter : (dropLastSlashes path).bytes.length ≤ path.bytes.length := by simp [hbytes]
      have found : ∃ other,
          walk root base (dropLastSlashes path) false = .ok (.occupied other) := by
        rw [walk, if_neg fun empty => named (nonempty empty), if_neg (by omega),
          isAbsolute_dropLastSlashes_eq]
        rcases steps_dropLastSlashes path with same | dotted
        · exact ⟨location, same ▸ walked⟩
        · exact walkFrom_of_dot _ _ _ (dotted ▸ walked)
      obtain ⟨other, found⟩ := found
      rw [createDirectory, if_neg short, found]

end FileTree

/-- **The machine makes safely**, with links or without. -/
theorem Machine.makesSafely (home : Option Path) (runner : Runner Machine) :
    (Machine.host home runner).MakesSafely where
  isDirectory _ _ := rfl
  occupied _ _ := rfl
  listDirectory path m := by
    show (Machine.listDirectory path m).2 = m
    unfold Machine.listDirectory
    split
    · rfl
    · simp only [bind, StateT.bind, get, getThe, MonadStateOf.get, StateT.get, pure]
      cases FileTree.listDirectory m.root m.here path <;> rfl
  refuses path m e h := by
    change (Machine.createDirectory path m).1 = .error e at h
    show (Machine.createDirectory path m).2 = m
    rw [createDirectory_eq] at h ⊢
    split
    · rfl
    · split
      · rfl
      · simp_all
  taken path m h := by
    obtain ⟨noNul, location, located⟩ := occupied_eq_true.1 h
    refine ⟨.alreadyExists, ?_, by decide⟩
    show (Machine.createDirectory path m).1 = _
    rw [createDirectory_eq, if_neg (by simp [noNul]), FileTree.createDirectory_of_locate located]

open Interpreter (AsksForDirectory) in
/-- **Lines only add directories.** Let a machine make directories safely, and let others work on it
before each question. A line asks for a directory only if it is `mkdir` with a name; it has then just
found that nothing has that name, and asks once. If the name is taken, in time or only after `mkdir`
has looked, the line tells that it is and of nothing else, and no directory is made. If nothing is
handed over to be run in a series of lines, the directories that have been made are those of which
the lines tell, one by one and in order, each by its name in the directory in which the session was
when its line was taken; and whatever the others and each of these directories keep, holds from the
first state to the last. -/
theorem lines_only_add_directories (host : Host σ) (safe : host.MakesSafely)
    (others : Nat → σ → σ) :
    let shared := host.amid others
    (∀ (line : String) (run : Run (σ × Nat)),
      let name := (Submission.parse line).argument
      let path := run.session.directory.join (.ofString name)
      let asked := Interpreter.asked shared line run
      let after := Interpreter.execute shared line run
      (¬AsksForDirectory line →
        ∀ call ∈ asked, ∀ path answer, call ≠ .createDirectory path answer) ∧
      (AsksForDirectory line →
        asked = [.occupied path true] ∨
          ∃ answer, asked = [.occupied path false, .createDirectory path answer]) ∧
      (AsksForDirectory line → host.Taken others path run.host →
        ((Interpreter.dispatch shared (Text.trim line)).perform run).1 =
          .error (.alreadyExists name) ∧
        after.1 = .proceed ∧ after.2.session = run.session ∧
        after.2.calls = run.calls ++ [.append (.echo ("> " ++ Text.trim line)),
          .append (.error (CommandError.alreadyExists name).message),
          .append (.prompt (run.session.directory.display ++ "> "))] ∧
        ∀ call ∈ asked, call.made? = none)) ∧
    ∀ (lines : List String) (first : Run (σ × Nat)),
      let record := Interpreter.record shared lines first
      let final := Interpreter.executeAll shared lines first
      let told := Interpreter.toldAlong shared lines first
      final.calls = first.calls ++ told.map Prod.snd ∧
      ((∀ call ∈ record, call.launched? = none) →
        (first.session.directory.isAbsolute = true →
          record.filterMap HostCall.made? = told.filterMap fun (here, call) =>
            call.created?.map fun name => here.join (.ofString name)) ∧
        ∀ R : σ → σ → Prop, (∀ s, R s s) → (∀ s t u, R s t → R t u → R s u) →
          (∀ n s, R s (others n s)) →
          (∀ path ∈ record.filterMap HostCall.made?, ∀ s t,
            host.createDirectory path s = (.ok (), t) → R s t) →
          R first.host.1 final.host.1) := by
  intro shared
  refine ⟨fun line run => ⟨?_, ?_, fun asks taken => ?_⟩, fun lines first =>
    ⟨Interpreter.calls_executeAll shared lines first, fun kept => ⟨?_, ?_⟩⟩⟩
  · exact fun other => Interpreter.ne_createDirectory_of_asked other run
  · exact fun asks => Interpreter.asked_of_asksForDirectory asks run
  · obtain ⟨t, performed⟩ := Interpreter.perform_of_taken safe asks taken
    obtain ⟨u, executed⟩ := Interpreter.execute_of_taken safe asks taken
    rw [executed]
    refine ⟨?_, rfl, rfl, rfl, Interpreter.made?_of_taken safe asks taken⟩
    rw [Request.dispatch_eq]
    exact congrArg Prod.fst performed
  · exact fun absolute => Interpreter.made_eq_told lines first absolute kept
  · intro R refl trans acts makes
    have keeps := safe.keeps refl trans acts kept fun call path hcall made =>
      makes path (List.mem_filterMap.2 ⟨call, hcall, made⟩)
    exact Interpreter.executeAll_keeps (R := fun s t => R s.1 t.1) (fun s => refl s.1)
      (fun s t u => trans s.1 t.1 u.1) lines first keeps

/-- Leaves a link at the root that leads nowhere. -/
def Machine.leaveLink (m : Machine) : Machine :=
  { m with root := m.root.insert [Text.encode "logs"] (.link (.ofString "gone")) }

/-- Somebody leaves the link just after the first question. -/
def Machine.meddle (n : Nat) (m : Machine) : Machine := if n = 1 then m.leaveLink else m

theorem Machine.here_meddle (n : Nat) (m : Machine) : (meddle n m).here = m.here := by
  unfold meddle
  split <;> rfl

theorem Machine.locate_leaveLink : FileTree.locate small.leaveLink.root []
    (Path.root.join (.ofString "logs")) false = .ok [Text.encode "logs"] := by
  have steps : FileTree.steps (Path.root.join (.ofString "logs")) = [Text.encode "logs"] := by
    decide +kernel
  have tree : small.leaveLink.root.at? [] = some (.directory
      [(Text.encode "srv", .directory
        [(Text.encode "www", .directory []), (Text.encode "note", .file .empty false)]),
      (Text.encode " ", .directory []), (Text.encode "logs", .link (.ofString "gone"))]) := rfl
  have walked : ∀ links, FileTree.walkFrom small.leaveLink.root false links []
      [Text.encode "logs"] = .ok (.occupied [Text.encode "logs"]) := by
    intro links
    rw [FileTree.walkFrom, List.reverse_nil, tree]
    dsimp only
    rw [if_neg (by decide +kernel), if_neg (by decide +kernel), if_neg (by decide +kernel)]
    rfl
  rw [FileTree.locate, FileTree.walk, if_neg (by decide +kernel), if_neg (by decide +kernel), steps,
    List.reverse_nil, ite_self, walked]

open Machine Interpreter in
/-- A link comes to stand where `mkdir` has looked and found nothing. -/
theorem link_in_between :
    let line := "mkdir logs"
    let first : Run (Machine × Nat) := { session := { directory := .root }, host := (small, 0) }
    quietHost.MakesSafely ∧ AsksForDirectory line ∧
      quietHost.Taken meddle (Path.root.join (.ofString "logs")) first.host ∧
      (execute (quietHost.amid meddle) line first).2.calls =
        [.append (.echo "> mkdir logs"), .append (.error "Error: the folder 'logs' already exists."),
          .append (.prompt "/> ")] ∧
      (∀ call ∈ record (quietHost.amid meddle) [line] first, call.launched? = none) ∧
      (∃ told : List (Path × SinkCall),
        (executeAll (quietHost.amid meddle) [line] first).calls = [] ++ told.map Prod.snd ∧
        told.filterMap newDirectory? = []) ∧
      (executeAll (quietHost.amid meddle) [line] first).host.1.here = small.here := by
  intro line first
  have safe : quietHost.MakesSafely := makesSafely _ _
  have asks : AsksForDirectory line := ⟨by decide +kernel, by decide +kernel⟩
  have argument : (Submission.parse line).argument = "logs" := by decide +kernel
  have taken : quietHost.Taken meddle
      (first.session.directory.join (.ofString (Submission.parse line).argument)) first.host := by
    rw [argument]
    exact .inr (occupied_eq_true.2 ⟨by decide, _, locate_leaveLink⟩)
  have recorded : record (quietHost.amid meddle) [line] first =
      asked (quietHost.amid meddle) line first := List.append_nil _
  have kept : ∀ call ∈ record (quietHost.amid meddle) [line] first, call.launched? = none := by
    rw [recorded]
    rcases @asked_of_asksForDirectory _ (quietHost.amid meddle) _ asks first with
      h | ⟨answer, h⟩
    · simp [h, HostCall.launched?]
    · simp [h, HostCall.launched?]
  obtain ⟨one, series⟩ := lines_only_add_directories quietHost safe meddle
  obtain ⟨-, -, -, calls, unmade⟩ := (one line first).2.2 asks taken
  obtain ⟨told, matched⟩ := series [line] first
  obtain ⟨tally, keeps⟩ := matched kept
  have unmade' : (record (quietHost.amid meddle) [line] first).filterMap HostCall.made? = [] := by
    rw [recorded]
    exact List.filterMap_eq_nil_iff.2 unmade
  rw [unmade'] at tally keeps
  have here := keeps (fun s t => t.here = s.here) (fun _ => rfl) (fun _ _ _ h h' => h'.trans h)
    here_meddle nofun
  rw [argument] at calls taken
  have trimmed : Text.trim line = "mkdir logs" := by decide +kernel
  have shown : Path.root.display = "/" := by decide +kernel
  refine ⟨safe, asks, taken, ?_, kept, ⟨_, told, (tally rfl).symm⟩, here⟩
  rw [calls, trimmed]
  show [_, _, SinkCall.append (.prompt (Path.root.display ++ "> "))] = _
  rw [shown]
  rfl

end ThemedShell
