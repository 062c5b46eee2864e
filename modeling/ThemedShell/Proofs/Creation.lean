import ThemedShell.Proofs.ProcessDirectory
import ThemedShell.Proofs.Routing

/-!
# New directories and the lines that tell of them

Only `mkdir` has directories made, and it asks the machine for at most one, after it has looked for
the very path. As long as nothing is handed over to be run, only `mkdir` tells that one has been made;
so these lines and the directories match one by one, in every series of turns
(`Interpreter.made_eq_told`).
-/
namespace ThemedShell

variable {σ : Type}

/-! ## Absolute paths as text -/

namespace Text.Decoder

/-- What has been read stays. -/
theorem read_suffix_lead (read : List (Option Char)) (b : UInt8) : read <:+ (lead read b).read := by
  unfold lead
  split
  · exact List.suffix_cons _ _
  · exact List.suffix_cons _ _
  · exact List.suffix_rfl

theorem read_suffix_step (d : Decoder) (b : UInt8) : d.read <:+ (d.step b).read := by
  unfold step
  split
  · exact read_suffix_lead d.read b
  · split
    · dsimp only
      split
      · exact List.suffix_cons _ _
      · exact List.suffix_rfl
    · exact (List.suffix_cons _ _).trans (read_suffix_lead _ b)

theorem read_suffix_foldl (bs : Octets) : ∀ d : Decoder, d.read <:+ (bs.foldl step d).read := by
  induction bs with
  | nil => exact fun d => List.suffix_rfl
  | cons b bs ih => exact fun d => (read_suffix_step d b).trans (ih (d.step b))

theorem read_prefix_finish (d : Decoder) : d.read.reverse <+: d.finish := by
  rw [finish, List.reverse_prefix]
  split
  · exact List.suffix_rfl
  · exact List.suffix_cons _ _

end Text.Decoder

theorem Text.head?_append {start : String} {c : Char} (h : start.toList.head? = some c)
    (rest : String) : (start ++ rest).toList.head? = some c := by
  rw [String.toList_append, List.head?_append, h]
  rfl

/-- An absolute path is shown with a slash in front. -/
theorem Path.head?_display {path : Path} (h : path.isAbsolute = true) :
    path.display.toList.head? = some '/' := by
  obtain ⟨rest, hrest⟩ := Path.bytes_of_isAbsolute h
  have first : Text.Decoder.step {} slash = ⟨none, [some '/']⟩ := rfl
  have read : [some '/'] <+: Text.decodeEach path.bytes := by
    rw [hrest, Text.decodeEach, List.foldl_cons, first]
    exact (List.reverse_prefix.2 (Text.Decoder.read_suffix_foldl rest ⟨none, [some '/']⟩)).trans
      (Text.Decoder.read_prefix_finish _)
  obtain ⟨more, hmore⟩ := read
  rw [Path.display, Text.decodeLossy, ← hmore, String.toList_ofList]
  rfl

/-! ## Lines that tell of a directory -/

/-- The name in a line that tells that a directory has been made. -/
def Line.created? (line : Line) : Option String :=
  (("Folder '".toList.isPrefixOf? line.text.toList).bind
    ("' created.".toList.isSuffixOf? ·)).map .ofList

namespace Line

theorem created?_eq_some {line : Line} {name : String} :
    line.created? = some name ↔ line.text = "Folder '" ++ name ++ "' created." := by
  simp only [created?, Option.map_eq_some_iff, Option.bind_eq_some_iff,
    List.isPrefixOf?_eq_some_iff_append_eq, List.isSuffixOf?_eq_some_iff_append_eq,
    ← String.toList_inj, String.toList_append]
  constructor
  · rintro ⟨chars, ⟨_, hprefix, rfl⟩, hname⟩
    rw [← hprefix, ← String.toList_ofList.symm.trans hname]
    exact (List.append_assoc ..).symm
  · intro h
    exact ⟨name.toList, ⟨_, h.symm ▸ (List.append_assoc ..).symm, rfl⟩, String.toList_ofList⟩

/-- Such a line begins with a certain letter and ends with a stop. -/
theorem created?_eq_none {line : Line}
    (h : line.text.toList.head? ≠ some 'F' ∨ line.text.toList.getLast? ≠ some '.') :
    line.created? = none := by
  rw [Option.eq_none_iff_forall_ne_some]
  intro name created
  rw [created?_eq_some.1 created, String.toList_append, String.toList_append] at h
  rcases h with first | last
  · exact first rfl
  · exact last (List.getLast?_append.trans rfl)

end Line

namespace SinkCall

/-- The name of the directory of which the surface is told that it has been made. -/
def created? : SinkCall → Option String
  | .append line => line.created?
  | .clear | .applyTheme _ => none

theorem created?_of_head {style : LineStyle} {text : String} {c : Char}
    (h : text.toList.head? = some c) (other : c ≠ 'F') :
    (append ⟨style, text⟩).created? = none := by
  refine Line.created?_eq_none (.inl fun first => other ?_)
  exact Option.some.inj (h.symm.trans first)

theorem created?_error (e : CommandError) : (append (.error e.message)).created? = none := by
  have first : e.message.toList.head? = some 'E' ∨ e.message.toList.head? = some 'C' := by
    cases e with
    | unrecognizedColor name hint =>
      exact .inr (Text.head?_append (Text.head?_append
        (Text.head?_append (Text.head?_append rfl _) _) _) _)
    | pathNotFound shown | alreadyExists shown =>
      exact .inl (Text.head?_append (Text.head?_append rfl _) _)
    | external cause | path cause => exact .inl (Text.head?_append rfl _)
    | system action source =>
      exact .inl (Text.head?_append (Text.head?_append (Text.head?_append rfl _) _) _)
  rcases first with first | first
  · exact created?_of_head first (by decide)
  · exact created?_of_head first (by decide)

theorem created?_echoed (line : String) : (Interpreter.echoed line).created? = none :=
  created?_of_head (Text.head?_append rfl _) (by decide)

theorem created?_prompted (session : Session) : (Interpreter.prompted session).created? = none := by
  refine Line.created?_eq_none (.inr fun last => ?_)
  rw [Line.prompt, Session.prompt, String.toList_append, List.getLast?_append] at last
  exact absurd (Option.some.inj last) (by decide)

end SinkCall

/-! ## What commands tell -/

/-- The directory that has been made. -/
def HostCall.made? : HostCall → Option Path
  | .createDirectory path (.ok ()) => some path
  | _ => none

theorem HostCall.made?_eq_none {call : HostCall}
    (h : ∀ path answer, call ≠ .createDirectory path answer) : call.made? = none := by
  cases call with
  | createDirectory path answer => exact absurd rfl (h path answer)
  | _ => rfl

/-- The surface is told of no new directory. -/
def Silent (told : List SinkCall) : Prop := ∀ call ∈ told, call.created? = none

namespace Silent

theorem nil : Silent [] := by simp [Silent]

theorem singleton {call : SinkCall} (h : call.created? = none) : Silent [call] := by
  simp [Silent, h]

theorem filterMap_eq_nil {told : List SinkCall} (h : Silent told) :
    told.filterMap SinkCall.created? = [] :=
  List.filterMap_eq_nil_iff.2 h

end Silent

namespace Command

theorem silent_help : Silent (helpLines.map fun text => .append (.plain text)) := by
  have first : ∀ text ∈ helpLines, ∃ c cs, text = String.ofList (c :: cs) ∧ c ≠ 'F' := by
    simp only [helpLines, List.forall_mem_cons]
    and_intros
    all_goals first | exact ⟨_, _, rfl, by decide⟩ | simp
  intro call hcall
  obtain ⟨text, htext, rfl⟩ := List.mem_map.1 hcall
  obtain ⟨c, cs, rfl, other⟩ := first text htext
  exact SinkCall.created?_of_head (by rw [String.toList_ofList]; rfl) other

theorem silent_listing (listing : Listing) : Silent (listing.lines.map .append) := by
  intro call hcall
  obtain ⟨line, hline, rfl⟩ := List.mem_map.1 hcall
  rcases List.mem_append.1 hline with hline | hline
  · obtain ⟨name, -, rfl⟩ := List.mem_map.1 hline
    exact SinkCall.created?_of_head (Text.head?_append rfl _) (by decide)
  · obtain ⟨name, -, rfl⟩ := List.mem_map.1 hline
    exact SinkCall.created?_of_head (Text.head?_append rfl _) (by decide)

variable {host : Host σ} {run : Run σ}

theorem silent_changeDirectory (argument : String) (h : run.session.directory.isAbsolute = true) :
    ∃ told, ((changeDirectory host argument).perform run).2.calls = run.calls ++ told ∧
      Silent told := by
  rw [perform_changeDirectory]
  split
  · exact ⟨_, rfl, .singleton (SinkCall.created?_of_head (Path.head?_display h) (by decide))⟩
  · split
    · exact ⟨[], by simp, .nil⟩
    · split
      · exact ⟨_, rfl, .singleton (SinkCall.created?_of_head (Text.head?_append rfl _) (by decide))⟩
      · exact ⟨[], by simp, .nil⟩

theorem silent_listAt (argument : String) (target : Path) :
    ∃ told, ((listAt host argument target).perform run).2.calls = run.calls ++ told ∧
      Silent told := by
  rw [perform_listAt]
  dsimp only
  split
  · split
    · exact ⟨[], by simp, .nil⟩
    · split
      · exact ⟨[], by simp, .nil⟩
      · refine ⟨_, rfl, fun call hcall => ?_⟩
        rcases List.mem_cons.1 hcall with rfl | hcall
        · exact SinkCall.created?_of_head (Text.head?_append (Text.head?_append rfl _) _)
            (by decide)
        · exact silent_listing _ call hcall
  · exact ⟨[], by simp, .nil⟩

theorem silent_setColor (layer : Layer) (argument : String) :
    ∃ told, ((setColor layer argument).perform run).2.calls = run.calls ++ told ∧
      Silent told := by
  rw [perform_setColor]
  split
  · exact ⟨[], by simp, .nil⟩
  · refine ⟨_, rfl, ?_⟩
    simp only [Silent, List.forall_mem_cons]
    refine ⟨rfl, ?_, by simp⟩
    cases layer with
    | foreground => exact SinkCall.created?_of_head (Text.head?_append rfl _) (by decide)
    | background => exact SinkCall.created?_of_head (Text.head?_append rfl _) (by decide)

end Command

namespace Request

variable {host : Host σ} {run : Run σ}

/-- Requests that hand over nothing and are not for a new directory tell of none. -/
theorem silent_perform (host : Host σ) {request : Request} (run : Run σ)
    (absolute : run.session.directory.isAbsolute = true)
    (kept : request.launches run.session.directory = [])
    (other : ∀ argument, request ≠ .builtin .makeDirectory argument) :
    ∃ told, (request.perform host run).2.calls = run.calls ++ told ∧ Silent told := by
  cases request with
  | external commandLine => cases kept
  | builtin b argument =>
    cases b with
    | help => exact ⟨_, rfl, Command.silent_help⟩
    | changeDirectory => exact Command.silent_changeDirectory argument absolute
    | list =>
      show ∃ told, ((Command.list host argument).perform run).2.calls = _ ∧ _
      rw [Command.perform_list]
      split
      · exact ⟨[], by simp, .nil⟩
      · exact Command.silent_listAt argument _
    | makeDirectory => exact absurd rfl (other argument)
    | clear => exact ⟨[.clear], rfl, .singleton rfl⟩
    | color layer =>
      have performed : (Request.builtin (.color layer) argument).perform host run =
          (Command.setColor layer argument).perform run := rfl
      rw [performed]
      exact Command.silent_setColor layer argument
    | exec =>
      show ∃ told, ((Command.exec host argument).perform run).2.calls = _ ∧ _
      rw [launches] at kept
      split at kept
      · next blank =>
        rw [Command.perform_exec, if_pos blank]
        exact ⟨_, rfl, .singleton (SinkCall.created?_of_head rfl (by decide))⟩
      · cases kept
    | exit => exact ⟨[], by simp [perform, action, Builtin.run], .nil⟩

/-- Only a request for a new directory asks for one. -/
theorem ne_createDirectory_of_asked {request : Request}
    (other : ∀ argument, request ≠ .builtin .makeDirectory argument) :
    ∀ call ∈ request.asked host run, ∀ path answer, call ≠ .createDirectory path answer := by
  rintro call hcall path answer rfl
  have asks := (asked_spec host request run).1 _ hcall
  cases request with
  | external => exact asks
  | builtin b argument =>
    cases b with
    | makeDirectory => exact other argument rfl
    | _ => exact asks

/-- **What a request for a new directory asks**: whether the name is taken, and only if it is not, to
make the directory. -/
theorem asked_makeDirectory (host : Host σ) (argument : String) (run : Run σ) :
    let path := run.session.directory.join (.ofString argument)
    let looked := host.occupied path
    (Request.builtin .makeDirectory argument).asked host run =
      if Text.isBlankText argument then []
      else if run.answer looked then [.occupied path true]
      else [.occupied path false,
        .createDirectory path ((run.after looked).answer (host.createDirectory path))] := by
  intro path looked
  show ((Command.makeDirectory host.watched argument).perform run.watched).2.host.2 = _
  rw [Command.perform_makeDirectory]
  by_cases blank : Text.isBlankText argument = true
  · simp only [if_pos blank]
    rfl
  · -- The watched host answers as the host does, and the answers go on the record.
    have watched : run.watched.answer (host.watched.occupied
        (run.watched.session.directory.join (.ofString argument))) = run.answer looked := rfl
    have first : (host.occupied path run.host).1 = run.answer looked := rfl
    simp only [if_neg blank, watched]
    cases taken : run.answer looked with
    | true =>
      rw [taken] at first
      exact congrArg (fun answer => [HostCall.occupied path answer]) first
    | false =>
      rw [taken] at first
      have record := congrArg (fun answer => [HostCall.occupied path answer,
        .createDirectory path ((run.after looked).answer (host.createDirectory path))]) first
      simp only [Bool.false_eq_true, if_false]
      split <;> exact record

end Request

/-! ## One by one -/

/-- The directories that have been made are those of which the surface has been told, by their names
at `here`. -/
def Tally (here : Path) (record : List HostCall) (told : List SinkCall) : Prop :=
  record.filterMap HostCall.made? =
    (told.filterMap SinkCall.created?).map fun name => here.join (.ofString name)

namespace Tally

variable {here : Path} {record more : List HostCall} {told later : List SinkCall}

theorem of_silent (h : ∀ call ∈ record, call.made? = none) (silent : Silent told) :
    Tally here record told := by
  rw [Tally, List.filterMap_eq_nil_iff.2 h, silent.filterMap_eq_nil, List.map_nil]

theorem append_silent (h : Tally here record told) (silent : Silent later) :
    Tally here record (told ++ later) := by
  rw [Tally, List.filterMap_append, silent.filterMap_eq_nil, List.append_nil]
  exact h

theorem cons_silent (h : Tally here record told) {call : SinkCall}
    (silent : call.created? = none) : Tally here record (call :: told) := by
  rw [Tally, List.filterMap_cons_none silent]
  exact h

end Tally

namespace Request

variable {host : Host σ} {run : Run σ}

/-- Where a directory has been made, the surface is told of it by the name that was given. -/
theorem tally_makeDirectory (argument : String) :
    ∃ told, ((Request.builtin .makeDirectory argument).perform host run).2.calls =
        run.calls ++ told ∧
      Tally run.session.directory
        ((Request.builtin .makeDirectory argument).asked host run) told := by
  rw [asked_makeDirectory]
  show ∃ told, ((Command.makeDirectory host argument).perform run).2.calls = _ ∧ _
  rw [Command.perform_makeDirectory]
  split
  · exact ⟨_, rfl, .of_silent (by simp) (.singleton (SinkCall.created?_of_head rfl (by decide)))⟩
  · dsimp only
    split
    · exact ⟨[], by simp, .of_silent (by simp [HostCall.made?]) .nil⟩
    · split
      · next source failed =>
        rw [failed]
        exact ⟨[], by simp, .of_silent (by simp [HostCall.made?]) .nil⟩
      · next made =>
        rw [made]
        have told : (SinkCall.append (.plain ("Folder '" ++ argument ++ "' created."))).created? =
            some argument := Line.created?_eq_some.2 rfl
        refine ⟨_, rfl, ?_⟩
        rw [Tally, List.filterMap_cons_some told]
        rfl

end Request

namespace Interpreter

variable {host : Host σ} {run : Run σ}

/-- At its end a turn tells of no new directory. -/
theorem calls_finish (left : Except CommandError Outcome × Run σ) :
    ∃ closing, (finish left).2.calls = left.2.calls ++ closing ∧ Silent closing := by
  obtain ⟨result, left⟩ := left
  cases result with
  | ok outcome =>
    cases outcome with
    | proceed =>
      exact ⟨[prompted left.session], rfl, .singleton (SinkCall.created?_prompted _)⟩
    | exit => exact ⟨[], by simp [finish], .nil⟩
  | error e =>
    exact ⟨[.append (.error e.message), prompted left.session], rfl,
      by simp [Silent, SinkCall.created?_error, SinkCall.created?_prompted]⟩

/-- **One line.** If a line hands over nothing, the surface is told of a directory exactly where the
machine has made one. -/
theorem tally_execute (line : String) (absolute : run.session.directory.isAbsolute = true)
    (kept : ∀ call ∈ asked host line run, call.launched? = none) :
    ∃ told, (execute host line run).2.calls = run.calls ++ told ∧
      Tally run.session.directory (asked host line run) told := by
  rw [← List.filterMap_eq_nil_iff, launched_execute] at kept
  rw [execute_eq, asked_eq]
  split
  · exact ⟨_, rfl, .of_silent (by simp)
      (by simp [Silent, SinkCall.created?_echoed, SinkCall.created?_prompted])⟩
  · next nonblank =>
    rw [if_neg nonblank] at kept
    generalize Request.ofLine (Text.trim line) = request at *
    have performed : ∃ told,
        (request.perform host (opened line run)).2.calls = (run.calls ++ [echoed line]) ++ told ∧
        Tally run.session.directory (request.asked host (opened line run)) told := by
      by_cases other : ∀ argument, request ≠ .builtin .makeDirectory argument
      · obtain ⟨told, hcalls, silent⟩ :=
          Request.silent_perform host (opened line run) absolute kept other
        exact ⟨told, hcalls, .of_silent (fun call hcall => HostCall.made?_eq_none
          (Request.ne_createDirectory_of_asked other call hcall)) silent⟩
      · obtain ⟨argument, hrequest⟩ := not_forall_not.1 other
        rw [hrequest]
        exact Request.tally_makeDirectory argument
    obtain ⟨told, hcalls, tally⟩ := performed
    obtain ⟨closing, hclosing, silent⟩ := calls_finish (request.perform host (opened line run))
    refine ⟨echoed line :: (told ++ closing), ?_,
      (tally.append_silent silent).cons_silent (SinkCall.created?_echoed line)⟩
    rw [hclosing, hcalls]
    simp

/-! ## Series of lines -/

/-- What lines ask of the machine when they are taken one after the other. -/
def record (host : Host σ) : List String → Run σ → List HostCall
  | [], _ => []
  | line :: rest, run => asked host line run ++ record host rest (execute host line run).2

/-- The run that lines leave when they are taken one after the other. -/
def executeAll (host : Host σ) (lines : List String) (run : Run σ) : Run σ :=
  (Turn.takeAll host (lines.map fun line => { line }) run).2

theorem executeAll_cons (line : String) (rest : List String) :
    executeAll host (line :: rest) run = executeAll host rest (execute host line run).2 := rfl

/-- What lines tell the surface when they are taken one after the other, each call with the directory
in which the session was when its line was taken. -/
def toldAlong (host : Host σ) : List String → Run σ → List (Path × SinkCall)
  | [], _ => []
  | line :: rest, run =>
    (execute host line run.fresh).2.calls.map (fun call => (run.session.directory, call)) ++
      toldAlong host rest (execute host line run).2

theorem calls_executeAll (host : Host σ) (lines : List String) (run : Run σ) :
    (executeAll host lines run).calls = run.calls ++ (toldAlong host lines run).map Prod.snd := by
  induction lines generalizing run with
  | nil => exact (List.append_nil _).symm
  | cons line rest ih =>
    rw [executeAll_cons, ih, calls_execute, toldAlong]
    simp [Function.comp_def]

/-- The directory of which a call tells that it has been made, if the name is read from `here`. -/
def newDirectory? : Path × SinkCall → Option Path
  | (here, call) => call.created?.map fun name => here.join (.ofString name)

/-- **Series of lines.** If nothing is handed over, the directories that the machine has made are, one
by one and in order, those of which the lines tell, each by its name in the directory in which the
session was. -/
theorem made_eq_told (lines : List String) (run : Run σ)
    (absolute : run.session.directory.isAbsolute = true)
    (kept : ∀ call ∈ record host lines run, call.launched? = none) :
    (record host lines run).filterMap HostCall.made? =
      (toldAlong host lines run).filterMap newDirectory? := by
  induction lines generalizing run with
  | nil => rfl
  | cons line rest ih =>
    rw [record, List.forall_mem_append] at kept
    obtain ⟨told, hcalls, tally⟩ := tally_execute line absolute kept.1
    obtain rfl : (execute host line run.fresh).2.calls = told :=
      List.append_cancel_left ((calls_execute host line run).symm.trans hcalls)
    have named : ((execute host line run.fresh).2.calls.map fun call =>
        (run.session.directory, call)).filterMap newDirectory? =
          ((execute host line run.fresh).2.calls.filterMap SinkCall.created?).map fun name =>
            run.session.directory.join (.ofString name) := by
      rw [List.filterMap_map, List.map_filterMap]
      rfl
    rw [record, toldAlong, List.filterMap_append, List.filterMap_append, named, tally,
      ih (execute host line run).2 (execute_absolute line absolute) kept.2]

end Interpreter

end ThemedShell
