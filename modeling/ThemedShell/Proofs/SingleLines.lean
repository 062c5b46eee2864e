import ThemedShell.Proofs.ColorNames
import ThemedShell.Proofs.Creation
import ThemedShell.Proofs.CurrentDirectory
import ThemedShell.Proofs.Failure
import ThemedShell.Proofs.ListingEntries
import ThemedShell.Proofs.MachineAnswers
import ThemedShell.Proofs.Rendering

/-!
# Messages on one line

As long as no line feed is in what the user writes, in the directories and in the error texts of the
machine, every line that is told is unbroken, except that an external command may write what it likes
as errors and that the names of entries are shown as they are (`messages_stand_on_one_line`). Each
command is tidy in this sense on a watched host, whose record says what a line may come from
(`Request.tidy_perform`); the rest of a turn adds only the line, the directory and the error.
-/
namespace ThemedShell

open Text (unbroken_ofList)

variable {σ : Type}

/-! ## What is shown -/

/-- What a line may be, given what the machine has answered. -/
inductive Line.Accounted (record : List HostCall) : Line → Prop where
  | unbroken {line : Line} (h : Text.Unbroken line.text) : Accounted record line
  /-- What an external command has written as errors. -/
  | complaint {commandLine : String} {directory : Path} {result : External.Result}
    (answered : .launch commandLine directory (.ok result) ∈ record) :
    Accounted record (.error ("ERROR: " ++ Text.trimEnd result.stderr))
  /-- An entry of a directory that has been listed. -/
  | entry {target : Path} {entries : List (Except SystemError FileName)} {name : FileName}
    (answered : .listDirectory target (.ok entries) ∈ record) (mem : .ok name ∈ entries)
    (isDirectory : Bool) : Accounted record (Command.entryLine (name, isDirectory))

theorem Line.Accounted.mono {record more : List HostCall} {line : Line}
    (h : line.Accounted record) (sub : record ⊆ more) : line.Accounted more := by
  cases h with
  | unbroken h => exact .unbroken h
  | complaint answered => exact .complaint (sub answered)
  | entry answered mem isDirectory => exact .entry (sub answered) mem isDirectory

/-- The record accounts for all lines that have been told. -/
def Accounts (record : List HostCall) (told : List SinkCall) : Prop :=
  ∀ line, .append line ∈ told → line.Accounted record

namespace Accounts

variable {record more : List HostCall} {told later : List SinkCall}

theorem nil : Accounts record [] := nofun

theorem append (h : Accounts record told) (h' : Accounts record later) :
    Accounts record (told ++ later) :=
  fun line mem => (List.mem_append.1 mem).elim (h line) (h' line)

theorem oneLine {line : Line} (h : line.Accounted record) : Accounts record [.append line] :=
  fun _ mem => SinkCall.append.inj (List.mem_singleton.1 mem) ▸ h

theorem lines {lines : List Line} (h : ∀ line ∈ lines, line.Accounted record) :
    Accounts record (lines.map .append) :=
  fun line mem => h line (by simpa using mem)

theorem noLine {call : SinkCall} (h : ∀ line, call ≠ .append line) : Accounts record [call] :=
  fun line mem => absurd (List.mem_singleton.1 mem).symm (h line)

theorem mono (h : Accounts record told) (sub : record ⊆ more) : Accounts more told :=
  fun line mem => (h line mem).mono sub

end Accounts

/-- What has been asked is on the record. -/
theorem Run.mem_record {α : Type} (call : α → HostCall) (question : StateM σ α)
    (run : Run (σ × List HostCall)) :
    call (run.answer (Host.note call question)) ∈ (run.after (Host.note call question)).host.2 :=
  List.mem_append_right _ (List.mem_singleton_self _)

theorem Color.unbroken_name {color : Color} (mem : color ∈ palette) : Text.Unbroken color.name :=
  fun feed => absurd (isAlpha_of_mem mem '\n' feed) (by decide)

namespace Request

/-- A failure carries unbroken texts only, and all lines that have been told are accounted for. -/
structure Tidy (calls : List SinkCall)
    (left : Except CommandError Outcome × Run (σ × List HostCall)) : Prop where
  failure : ∀ e, left.1 = .error e → e.Unbroken
  told : ∃ told, left.2.calls = calls ++ told ∧ Accounts left.2.host.2 told

namespace Tidy

variable {calls : List SinkCall} {left : Run (σ × List HostCall)}

theorem failed {e : CommandError} (same : left.calls = calls) (h : e.Unbroken) :
    Tidy calls (.error e, left) :=
  ⟨fun _ error => Except.error.inj error ▸ h, [], same.trans (List.append_nil _).symm, .nil⟩

theorem wrote {lines : List Line} {outcome : Outcome} (same : left.calls = calls)
    (h : ∀ line ∈ lines, line.Accounted left.host.2) :
    Tidy calls (.ok outcome, left.told (lines.map .append)) :=
  ⟨nofun, lines.map .append, by rw [← same]; rfl, .lines h⟩

theorem wroteOne {line : Line} {outcome : Outcome} (same : left.calls = calls)
    (h : Text.Unbroken line.text) : Tidy calls (.ok outcome, left.told [.append line]) :=
  wrote same (List.forall_mem_singleton.2 (.unbroken h))

end Tidy

/-! ## Commands -/

theorem unbroken_layerName (layer : Layer) : Text.Unbroken (Command.layerName layer) := by
  cases layer <;> exact unbroken_ofList (by decide)

theorem unbroken_suggestions (layer : Layer) : Text.Unbroken (Command.suggestions layer) := by
  cases layer <;> exact unbroken_ofList (by decide)

theorem unbroken_helpLines : ∀ text ∈ Command.helpLines, Text.Unbroken text := by
  unfold Command.helpLines
  simp only [List.forall_mem_cons]
  and_intros
  all_goals first | exact unbroken_ofList (by decide) | exact List.forall_mem_nil _

theorem accounted_render {commandLine : String} {directory : Path} {result : External.Result}
    {record : List HostCall} (answered : .launch commandLine directory (.ok result) ∈ record) :
    ∀ line ∈ Command.render result, line.Accounted record := by
  intro line mem
  rcases List.mem_append.1 mem with mem | mem
  · obtain ⟨text, htext, rfl⟩ := List.mem_map.1 mem
    exact .unbroken ((Text.linesOf_lines result.stdout).unbroken text htext)
  · cases blank : Text.isBlankText result.stderr with
    | false =>
      rw [Command.verdict_of_not_blank blank] at mem
      rw [List.mem_singleton.1 mem]
      exact .complaint answered
    | true =>
      rw [Command.verdict_of_blank blank] at mem
      split at mem
      · cases mem
      · rw [List.mem_singleton.1 mem]
        exact .unbroken ((unbroken_ofList (by decide)).append (Text.unbroken_toString _))

section

variable {host : Host σ} {argument : String} {run : Run (σ × List HostCall)}
  (text : Text.Unbroken argument) (here : run.session.directory.Unbroken)

include text here in
theorem tidy_changeDirectory (home : ∀ p ∈ host.home, p.Unbroken) :
    Tidy run.calls ((Command.changeDirectory host.watched argument).perform run) := by
  rw [Command.perform_changeDirectory]
  split
  · exact .wroteOne rfl here.display
  · split
    · exact .failed rfl trivial
    · next target resolved =>
      split
      · exact .wroteOne rfl ((unbroken_ofList (by decide)).append
          (Path.unbroken_resolve home here text resolved).display)
      · exact .failed rfl text

/-- What has been asked before stays on the record. -/
theorem record_classify (host : Host σ) (target : Path) (names : List FileName)
    (run : Run (σ × List HostCall)) :
    run.host.2 ⊆ (run.after (Command.classify host.watched target names)).host.2 :=
  classify_keeps (R := fun s t => s.2 ⊆ t.2) (fun _ => List.Subset.refl _)
    (fun _ _ _ => List.Subset.trans) target (fun _ _ => List.subset_append_left _ _) names run

theorem accounted_lines {target : Path} {entries : List (Except SystemError FileName)}
    {record : List HostCall} (answered : .listDirectory target (.ok entries) ∈ record)
    {sorted : List (FileName × Bool)} (known : ∀ name ∈ sorted.map (·.1), .ok name ∈ entries) :
    ∀ line ∈ (Command.Listing.ofEntries sorted).lines, line.Accounted record := by
  intro line mem
  rw [Command.lines_ofEntries] at mem
  obtain ⟨entry, hentry, rfl⟩ := List.mem_map.1 mem
  have : entry ∈ sorted := by
    rcases List.mem_append.1 hentry with h | h
    · exact (List.mem_filter.1 h).1
    · exact (List.mem_filter.1 h).1
  exact .entry answered (known entry.1 (List.mem_map_of_mem this)) entry.2

include text in
theorem tidy_listAt {target : Path} (there : target.Unbroken)
    (answers : ∀ call ∈ ((Command.listAt host.watched argument target).perform run).2.host.2,
      call.Unbroken) :
    Tidy run.calls ((Command.listAt host.watched argument target).perform run) := by
  revert answers
  have noted := (run.after (host.watched.isDirectory target)).mem_record
    (.listDirectory target) (host.listDirectory target)
  -- The entries are on the record before they are told apart, which only adds to it.
  have kept := fun names => record_classify host target names
    ((run.after (host.watched.isDirectory target)).after (host.watched.listDirectory target))
  rw [Command.perform_listAt]
  dsimp only
  split
  · split
    · next source h =>
      intro answers
      exact .failed rfl ⟨unbroken_ofList (by decide), (answers _ noted).1 source h⟩
    · next entries h =>
      replace noted : HostCall.listDirectory target (.ok entries) ∈ _ := h ▸ noted
      rcases Command.readable_cases entries with ⟨none, all⟩ | ⟨source, rest, some, cut⟩
      · rw [none]
        intro _
        refine .wrote rfl (List.forall_mem_cons.2 ⟨.unbroken ?_, ?_⟩)
        · exact ((unbroken_ofList (by decide)).append there.display).append
            (unbroken_ofList (by decide))
        · refine accounted_lines (kept _ noted) fun name mem => ?_
          rw [Command.map_fst_classify] at mem
          rw [all]
          exact List.mem_map_of_mem mem
      · rw [some]
        intro answers
        refine .failed rfl ⟨unbroken_ofList (by decide), ?_⟩
        exact (answers _ (kept _ noted)).2 entries rfl source (by rw [cut]; simp)
  · intro _
    refine .failed rfl ?_
    show Text.Unbroken _
    split
    · exact there.display
    · exact text

include text here

theorem tidy_list (home : ∀ p ∈ host.home, p.Unbroken)
    (answers : ∀ call ∈ ((Command.list host.watched argument).perform run).2.host.2,
      call.Unbroken) :
    Tidy run.calls ((Command.list host.watched argument).perform run) := by
  revert answers
  rw [Command.perform_list]
  split
  · exact fun _ => .failed rfl trivial
  · next target named =>
    refine tidy_listAt text ?_
    unfold Command.listTarget at named
    split at named
    -- Without an argument it is the current directory that is listed.
    · exact Option.some.inj named ▸ here
    · exact Path.unbroken_resolve home here text named

omit here in
theorem tidy_makeDirectory
    (answers : ∀ call ∈ ((Command.makeDirectory host.watched argument).perform run).2.host.2,
      call.Unbroken) :
    Tidy run.calls ((Command.makeDirectory host.watched argument).perform run) := by
  revert answers
  rw [Command.perform_makeDirectory]
  dsimp only
  split
  · exact fun _ => .wroteOne rfl (unbroken_ofList (by decide))
  · split
    · exact fun _ => .failed rfl text
    · generalize run.session.directory.join (.ofString argument) = path
      have noted := (run.after (host.watched.occupied path)).mem_record
        (.createDirectory path) (host.createDirectory path)
      split
      · next source h =>
        intro answers
        have told := answers _ noted source h
        refine .failed rfl ?_
        unfold Command.creationError
        split
        · exact text
        · exact ⟨unbroken_ofList (by decide), told⟩
      · intro _
        exact .wroteOne rfl (((unbroken_ofList (by decide)).append text).append
          (unbroken_ofList (by decide)))

theorem tidy_runExternal
    (answers : ∀ call ∈ ((Command.runExternal host.watched argument).perform run).2.host.2,
      call.Unbroken) :
    Tidy run.calls ((Command.runExternal host.watched argument).perform run) := by
  revert answers
  have noted := run.mem_record (.launch argument run.session.directory)
    (host.launch argument run.session.directory)
  rw [Command.perform_runExternal]
  dsimp only
  split
  · next cause h =>
    intro answers
    rcases answers _ noted cause h with rfl | ⟨source, rfl, hsource⟩
    · exact .failed rfl here
    · exact .failed rfl ⟨text, hsource⟩
  · next result h =>
    intro _
    exact .wrote rfl (accounted_render (h ▸ noted))

theorem tidy_exec
    (answers : ∀ call ∈ ((Command.exec host.watched argument).perform run).2.host.2,
      call.Unbroken) :
    Tidy run.calls ((Command.exec host.watched argument).perform run) := by
  revert answers
  rw [Command.perform_exec]
  split
  · exact fun _ => .wroteOne rfl (unbroken_ofList (by decide))
  · exact tidy_runExternal text here

omit here in
theorem tidy_setColor (layer : Layer) :
    Tidy run.calls ((Command.setColor layer argument).perform run) := by
  rw [Command.perform_setColor]
  split
  · next unknown h =>
    refine .failed rfl ⟨?_, ?_⟩
    · rw [Color.token_of_error h]
      exact text.trim
    · exact unbroken_suggestions layer
  · next color h =>
    have name : Text.Unbroken color.name := Color.unbroken_name
      (Color.ofName?_eq_some.1 (Color.parse_eq_ok.1 h)).1
    have changed : Text.Unbroken (Command.layerName layer ++ " color changed to: ") :=
      (unbroken_layerName layer).append (unbroken_ofList (by decide))
    have theme : Accounts run.host.2
        [.applyTheme (run.session.theme.setLayer layer color)] := .noLine nofun
    exact ⟨nofun, _, rfl, theme.append (.oneLine (.unbroken (changed.append name)))⟩

end

theorem tidy_help {run : Run (σ × List HostCall)} :
    Tidy run.calls (Command.help.perform run) := by
  have accounted : ∀ line ∈ Command.helpLines.map Line.plain, line.Accounted run.host.2 := by
    intro line mem
    obtain ⟨text, htext, rfl⟩ := List.mem_map.1 mem
    exact .unbroken (unbroken_helpLines text htext)
  exact .wrote rfl accounted

/-- The text that a request carries. -/
def text : Request → String
  | .builtin _ argument => argument
  | .external commandLine => commandLine

theorem unbroken_ofLine {line : String} (h : Text.Unbroken line) :
    Text.Unbroken (ofLine (Text.trim line)).text := by
  rw [ofLine_trim]
  split
  · exact h.trim.of_sublist (Submission.argument_suffix line).sublist
  · exact h.trim

/-- **Requests are tidy**, if all that they take and are answered is unbroken. -/
theorem tidy_perform {host : Host σ} (request : Request) {run : Run (σ × List HostCall)}
    (home : ∀ p ∈ host.home, p.Unbroken) (text : Text.Unbroken request.text)
    (here : run.session.directory.Unbroken)
    (answers : ∀ call ∈ (request.perform host.watched run).2.host.2, call.Unbroken) :
    Tidy run.calls (request.perform host.watched run) := by
  cases request with
  | external commandLine => exact tidy_runExternal text here answers
  | builtin b argument =>
    cases b with
    | help => exact tidy_help
    | changeDirectory => exact tidy_changeDirectory text here home
    | list => exact tidy_list text here home answers
    | makeDirectory => exact tidy_makeDirectory text answers
    | clear => exact ⟨nofun, [.clear], rfl, .noLine nofun⟩
    | color layer => exact tidy_setColor text layer
    | exec => exact tidy_exec text here answers
    | exit => exact ⟨nofun, [], (List.append_nil _).symm, .nil⟩

end Request

/-! ## Lines -/

theorem Host.Exchange.exists_moves {host : Host σ} :
    ∀ {calls : List HostCall} {s t : σ}, host.Exchange calls s t →
      ∀ call ∈ calls, ∃ s t, host.Moves s t call
  | [], _, _, _ => nofun
  | _ :: _, s, _, ⟨u, move, rest⟩ => List.forall_mem_cons.2 ⟨⟨s, u, move⟩, rest.exists_moves⟩

/-- The record is not told. -/
theorem calls_watching {α : Type} (host : Host σ) (left : α × Run (σ × List HostCall)) :
    ((Simulation.watching host).along left).2.calls = left.2.calls := rfl

namespace Interpreter

theorem unbroken_echoed {line : String} (h : Text.Unbroken line) :
    Text.Unbroken ("> " ++ Text.trim line) :=
  (unbroken_ofList (by decide)).append h.trim

theorem unbroken_prompt {session : Session} (h : session.directory.Unbroken) :
    Text.Unbroken session.prompt :=
  h.display.append (unbroken_ofList (by decide))

/-- What follows a request at the end of a turn is unbroken. -/
theorem accounts_finish {calls : List SinkCall}
    {left : Except CommandError Outcome × Run (σ × List HostCall)} (tidy : Request.Tidy calls left)
    (there : (finish left).2.session.directory.Unbroken) :
    ∃ told, (finish left).2.calls = calls ++ told ∧ Accounts (finish left).2.host.2 told := by
  obtain ⟨failure, told, htold, accounts⟩ := tidy
  rw [session_finish] at there
  rw [host_finish]
  have prompt : Accounts left.2.host.2 [prompted left.2.session] :=
    .oneLine (.unbroken (unbroken_prompt there))
  obtain ⟨result, left⟩ := left
  dsimp only at htold
  cases result with
  | ok outcome =>
    cases outcome with
    | exit => exact ⟨told, htold, accounts⟩
    | proceed =>
      refine ⟨told ++ [prompted left.session], ?_, accounts.append prompt⟩
      rw [← List.append_assoc, ← htold]
      rfl
  | error e =>
    have error : Text.Unbroken e.message := CommandError.unbroken_message (failure e rfl)
    refine ⟨told ++ ([.append (.error e.message)] ++ [prompted left.session]), ?_,
      accounts.append ((Accounts.oneLine (.unbroken error)).append prompt)⟩
    rw [← List.append_assoc, ← htold]
    rfl

section

variable {host : Host σ} (home : ∀ p ∈ host.home, p.Unbroken) {line : String}
  (text : Text.Unbroken line) {run : Run σ} (here : run.session.directory.Unbroken)
include home text here

/-- The current directory stays unbroken. -/
theorem unbroken_execute : (execute host line run).2.session.directory.Unbroken := by
  rcases execute_directory host line run with same | moves
  · rw [same]
    exact here
  · exact Path.unbroken_resolve home here
      (text.trim.of_sublist (Submission.argument_suffix line).sublist) moves.resolved

variable (answers : ∀ call ∈ asked host line run, call.Unbroken)
include answers

/-- **What one line tells** is accounted for by what it has asked. -/
theorem accounts_execute :
    ∃ told, (execute host line run).2.calls = run.calls ++ told ∧
      Accounts (asked host line run) told := by
  -- The watched run tells the same, and its record is what has been asked.
  have there := unbroken_execute home text here
  rw [execute_watched, Simulation.session_along] at there
  rw [execute_watched, calls_watching]
  unfold asked at *
  rw [execute_eq] at *
  have echo (record) : Accounts record [echoed line] := .oneLine (.unbroken (unbroken_echoed text))
  by_cases blank : Text.trim line = ""
  · simp only [if_pos blank] at *
    exact ⟨[echoed line] ++ [prompted run.session], rfl,
      (echo _).append (.oneLine (.unbroken (unbroken_prompt there)))⟩
  · simp only [if_neg blank] at *
    rw [host_finish] at answers
    have tidy := Request.tidy_perform _ home (Request.unbroken_ofLine text) here answers
    obtain ⟨told, htold, accounts⟩ := accounts_finish tidy there
    refine ⟨[echoed line] ++ told, ?_, (echo _).append accounts⟩
    rw [htold]
    exact List.append_assoc _ _ _

/-- **A line that fails** tells its echo, one unbroken error and the prompt. -/
theorem told_of_failure (named : Text.trim line ≠ "") {e : CommandError}
    (failed : ((Request.ofLine (Text.trim line)).perform host (run.told [echoed line])).1 =
      .error e) :
    (execute host line run).2.calls =
        run.calls ++ [echoed line, .append (.error e.message), prompted run.session] ∧
      Text.Unbroken e.message := by
  refine ⟨(execute_of_error named failed).2.2, ?_⟩
  rw [asked_eq, if_neg named, Request.asked] at answers
  have tidy := Request.tidy_perform _ home (Request.unbroken_ofLine text) here answers
  rw [← Request.fst_perform_opened, Request.perform_watched, Simulation.fst_along] at failed
  exact CommandError.unbroken_message (tidy.failure e failed)

end

/-! ## Series of lines -/

theorem record_append (host : Host σ) (lines more : List String) (run : Run σ) :
    record host (lines ++ more) run =
      record host lines run ++ record host more (executeAll host lines run) := by
  induction lines generalizing run with
  | nil => rfl
  | cons line rest ih =>
    rw [List.cons_append, record, ih, record, executeAll_cons, List.append_assoc]

section

variable {host : Host σ} (home : ∀ p ∈ host.home, p.Unbroken) {lines : List String}
  (texts : ∀ line ∈ lines, Text.Unbroken line) {run : Run σ}
  (here : run.session.directory.Unbroken)
include home texts here

theorem unbroken_executeAll : (executeAll host lines run).session.directory.Unbroken := by
  induction lines generalizing run with
  | nil => exact here
  | cons line rest ih =>
    obtain ⟨text, texts⟩ := List.forall_mem_cons.1 texts
    rw [executeAll_cons]
    exact ih texts (unbroken_execute home text here)

/-- **What lines tell** is accounted for by what they have asked. -/
theorem accounts_record (answers : ∀ call ∈ record host lines run, call.Unbroken) :
    ∃ told, (executeAll host lines run).calls = run.calls ++ told ∧
      Accounts (record host lines run) told := by
  induction lines generalizing run with
  | nil => exact ⟨[], (List.append_nil _).symm, .nil⟩
  | cons line rest ih =>
    obtain ⟨text, texts⟩ := List.forall_mem_cons.1 texts
    obtain ⟨answers, others⟩ := List.forall_mem_append.1 answers
    obtain ⟨told, hcalls, accounts⟩ := accounts_execute home text here answers
    obtain ⟨later, hlater, accounts'⟩ := ih texts (unbroken_execute home text here) others
    refine ⟨told ++ later, ?_, (accounts.mono (List.subset_append_left _ _)).append
      (accounts'.mono (List.subset_append_right _ _))⟩
    rw [executeAll_cons, hlater, hcalls, List.append_assoc]

end

/-- What is on the record has been answered by the machine. -/
theorem moves_of_mem_record (host : Host σ) (lines : List String) (run : Run σ) :
    ∀ call ∈ record host lines run, ∃ s t, host.Moves s t call := by
  induction lines generalizing run with
  | nil => nofun
  | cons line rest ih =>
    refine List.forall_mem_append.2 ⟨fun call mem => ?_, ih _⟩
    rw [asked_eq] at mem
    split at mem
    · cases mem
    · exact (Request.asked_spec host _ _).2.exists_moves call mem

end Interpreter

/-- Whatever is on a machine, it and what runs its command lines answer with errors whose texts are
unbroken. -/
theorem Machine.unbroken_record (home : Option Path) (environment : Environment)
    (lines : List String) (first : Run Machine) :
    ∀ call ∈ Interpreter.record (Machine.host home (CommandRunner.run environment)) lines first,
      call.Unbroken := by
  intro call mem
  obtain ⟨s, t, move⟩ := Interpreter.moves_of_mem_record _ lines first call mem
  exact Machine.unbroken_of_moves (CommandRunner.unbroken_run environment) move

/-- **Messages stand on one line.** The message of an error is unbroken if all is that the error
carries. Let lines be taken one after the other, and let the lines, the home directory, the first
directory and the texts of all errors that are answered be unbroken; a runner's errors carry nothing
else but the command line or the directory that it was given. Then each line that is told is unbroken,
or it is what an external command has written as errors, or an entry of a directory that has been
listed. Each of the lines taken that fails tells its echo, one error that is unbroken, and the
prompt. -/
theorem messages_stand_on_one_line :
    (∀ e : CommandError, e.Unbroken → Text.Unbroken e.message) ∧
    (∀ {σ : Type} (host : Host σ) (lines : List String) (first : Run σ),
      (∀ p ∈ host.home, p.Unbroken) → first.session.directory.Unbroken →
      (∀ line ∈ lines, Text.Unbroken line) →
      (∀ call ∈ Interpreter.record host lines first, call.Unbroken) →
      (∃ told, (Interpreter.executeAll host lines first).calls = first.calls ++ told ∧
        ∀ line, .append line ∈ told → line.Accounted (Interpreter.record host lines first)) ∧
      ∀ earlier line later, lines = earlier ++ line :: later → Text.trim line ≠ "" →
        let before := Interpreter.executeAll host earlier first
        let echo := SinkCall.append (.echo ("> " ++ Text.trim line))
        ∀ e, ((Interpreter.dispatch host (Text.trim line)).perform (before.told [echo])).1 =
            .error e →
          Text.Unbroken e.message ∧
          (Interpreter.execute host line before).2.calls = before.calls ++
            [echo, .append (.error e.message),
              .append (.prompt (before.session.directory.display ++ "> "))]) := by
  refine ⟨fun e => CommandError.unbroken_message, fun host lines first home here texts answers =>
    ⟨Interpreter.accounts_record home texts here answers, ?_⟩⟩
  rintro earlier line later rfl named before echo e failed
  obtain ⟨earlierTexts, text, -⟩ : _ ∧ Text.Unbroken line ∧ _ := by
    simpa only [List.forall_mem_append, List.forall_mem_cons] using texts
  have there : before.session.directory.Unbroken :=
    Interpreter.unbroken_executeAll home earlierTexts here
  rw [Interpreter.record_append, List.forall_mem_append, Interpreter.record,
    List.forall_mem_append] at answers
  rw [Request.dispatch_eq] at failed
  exact (Interpreter.told_of_failure home text there answers.2.1 named failed).symm

/-- Every path leads to an empty directory, but no command line can be run there. -/
def Host.idle : Host Unit :=
  { Host.bare with
    launch := fun _ directory => pure (.error (.missingDirectory directory)) }

/-- A command line after a move. -/
theorem nothing_runs_in_docs :
    let before := Interpreter.executeAll .idle ["cd docs"] .bare
    let e : CommandError := .external (.missingDirectory before.session.directory)
    e.Unbroken ∧ (∀ p ∈ Host.idle.home, p.Unbroken) ∧ Run.bare.session.directory.Unbroken ∧
      (∀ line ∈ ["cd docs", " make all"], Text.Unbroken line) ∧
      (∀ call ∈ Interpreter.record .idle ["cd docs", " make all"] .bare, call.Unbroken) ∧
      Text.trim " make all" ≠ "" ∧
      ((Interpreter.dispatch .idle (Text.trim " make all")).perform
        (before.told [.append (.echo ("> " ++ Text.trim " make all"))])).1 = .error e ∧
      Text.Unbroken e.message ∧
      (Interpreter.execute .idle " make all" before).2.calls = before.calls ++
        [.append (.echo ("> " ++ Text.trim " make all")),
          .append (.error e.message),
          .append (.prompt (before.session.directory.display ++ "> "))] := by
  intro before e
  obtain ⟨messages, shown⟩ := messages_stand_on_one_line
  have home : ∀ p ∈ Host.idle.home, p.Unbroken := nofun
  have here : Run.bare.session.directory.Unbroken := by decide
  have texts : ∀ line ∈ ["cd docs", " make all"], Text.Unbroken line := by decide +kernel
  have answers : ∀ call ∈ Interpreter.record .idle ["cd docs", " make all"] .bare,
      call.Unbroken := by
    intro call mem
    obtain ⟨_, _, move⟩ := Interpreter.moves_of_mem_record _ _ _ call mem
    cases call <;> obtain ⟨rfl, -⟩ := Prod.mk.inj move
    case launch => exact fun cause same => .inl (Except.error.inj same).symm
    all_goals simp [HostCall.Unbroken]
  have named : Text.trim " make all" ≠ "" := by decide +kernel
  have error : e.Unbroken := by
    show before.session.directory.Unbroken
    decide +kernel
  have failed : ((Interpreter.dispatch .idle (Text.trim " make all")).perform
      (before.told [.append (.echo ("> " ++ Text.trim " make all"))])).1 = .error e := by
    decide +kernel
  have told := (shown .idle _ .bare home here texts answers).2 ["cd docs"] _ [] rfl named e failed
  exact ⟨error, home, here, texts, answers, named, failed, messages e error, told.2⟩

end ThemedShell
