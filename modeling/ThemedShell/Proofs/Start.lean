import ThemedShell.Proofs.FlagGrammar
import ThemedShell.Proofs.ProcessDirectory

/-!
# Starting the program

How the program starts is settled by its arguments and, if these ask for nothing else, by one
question to the machine: whether there is a directory to start in (`start_cases`). Unless a session
starts, the program is over before it has taken any reading (`start_is_decided`). To start in a
directory that the flags name is to start in the current one and to move there with `cd`
(`starting_there`).
-/
namespace ThemedShell.Program

open ThemedShell.Flag (Occurrence)

variable {σ δ : Type}

/-! ## The directory to start in -/

/-- The directory to start in is named by the last value for it among the arguments, as seen from
`here`; without one it is `here`. -/
def StartsIn (home : Option Path) (here : Path) (occurrences : List Occurrence)
    (directory : Path) : Prop :=
  match Occurrence.lastValue? .directory occurrences with
  | some value => Path.resolve home here value = some directory
  | none => directory = here

/-- If a home is known, there is always a path to start in. -/
theorem exists_startDirectory {home : Option Path} (known : home.isSome = true) (here : Path)
    (flags : Flags) : ∃ directory, startDirectory home here flags = some directory := by
  unfold startDirectory
  split
  · next value given =>
    cases resolved : Path.resolve home here value with
    | none => simp [(Path.resolve_eq_none.1 resolved).1] at known
    | some directory => exact ⟨directory, rfl⟩
  · exact ⟨here, rfl⟩

theorem isAbsolute_startDirectory {home : Option Path} {here directory : Path} {flags : Flags}
    (h : here.isAbsolute = true) (named : startDirectory home here flags = some directory) :
    directory.isAbsolute = true := by
  unfold startDirectory at named
  split at named
  · exact Path.isAbsolute_resolve h named
  · rwa [← Option.some.inj named]

theorem startsIn_of_startDirectory {home : Option Path} {here directory : Path}
    {occurrences : List Occurrence}
    (named : startDirectory home here (Flags.setAll {} occurrences) = some directory) :
    StartsIn home here occurrences directory := by
  rw [startDirectory, Flags.value?_setAll, Option.or_none] at named
  unfold StartsIn
  split
  · next value last => rwa [last] at named
  · next last =>
    rw [last] at named
    exact (Option.some.inj named).symm

/-- A first session is one in the directory to start in, if the machine finds it. -/
theorem initialSession_eq {host : Host σ} {here directory : Path} {flags : Flags}
    (absolute : here.isAbsolute = true)
    (named : startDirectory host.home here flags = some directory) (s : σ) :
    initialSession host here flags s =
      (if (host.isDirectory directory s).1 then .ok { directory }
        else .error (.notDirectory directory), (host.isDirectory directory s).2) := by
  have absolute' := isAbsolute_startDirectory absolute named
  rw [initialSession, named]
  simp only [bind, StateT.bind, Session.start?_of_absolute absolute']
  cases (host.isDirectory directory s).1 <;> rfl

/-! ## How a start ends -/

section

variable {host : Host σ} {invocation : Invocation} {flags : Flags} {error : Option FlagError}
  {directory : Path} (absolute : invocation.directory.isAbsolute = true)
  (named : startDirectory host.home invocation.directory flags = some directory)
include absolute named

/-- What a start comes to. The machine is asked for the directory to start in, and that only where
nothing else is asked for. -/
theorem start_eq (s : σ) :
    Flags.parse {} invocation.arguments = (flags, error) → start host invocation s =
      match error with
      | some cause => (.refused (.flag cause), s)
      | none =>
        if flags.isSet .help then (.shows Flag.helpText, s)
        else if flags.isSet .version then (.shows versionText, s)
        else
          (if (host.isDirectory directory s).1 then .session flags { directory }
            else .refused (.notDirectory directory), (host.isDirectory directory s).2) := by
  intro parsed
  rw [start, parsed]
  cases error with
  | some cause => rfl
  | none =>
    by_cases help : flags.isSet .help = true
    · simp only [help, if_true]
      rfl
    · by_cases version : flags.isSet .version = true
      · simp only [help, version, if_true, if_false, Bool.false_eq_true]
        rfl
      · simp only [help, version, Bool.false_eq_true, if_false, bind, StateT.bind,
          initialSession_eq absolute named]
        cases (host.isDirectory directory s).1 <;> rfl

variable (parsed : Flags.parse {} invocation.arguments = (flags, error))
include parsed

/-- A start is refused, shows a text, or comes to a session in the directory to start in. -/
theorem start_cases (s : σ) :
    (∃ cause, start host invocation s = (.refused (.flag cause), s)) ∨
    (∃ text, start host invocation s = (.shows text, s)) ∨
    start host invocation s =
      (.refused (.notDirectory directory), (host.isDirectory directory s).2) ∨
    start host invocation s = (.session flags { directory }, (host.isDirectory directory s).2) := by
  rw [start_eq absolute named s parsed]
  cases error with
  | some cause => exact .inl ⟨cause, rfl⟩
  | none =>
    dsimp only
    split
    · exact .inr (.inl ⟨_, rfl⟩)
    · split
      · exact .inr (.inl ⟨_, rfl⟩)
      · cases (host.isDirectory directory s).1
        · exact .inr (.inr (.inl rfl))
        · exact .inr (.inr (.inr rfl))

/-- A start comes to the same on a watched host. -/
theorem start_watched (s : σ) :
    (start host.watched invocation (s, [])).1 = (start host invocation s).1 := by
  have named' : startDirectory host.watched.home invocation.directory flags = some directory :=
    named
  rw [start_eq absolute named s parsed, start_eq absolute named' (s, []) parsed]
  cases error with
  | some cause => rfl
  | none =>
    dsimp only
    split
    · rfl
    · split <;> rfl

end

/-! ## How the program ends -/

/-- How the program ends after a start: a refusal with code 1 and its report, all else with code 0. A
text is shown and nothing else, and nothing is written to the log but by a session. -/
def EndsAs (device : Device δ) (output : δ) (ending : Ending σ δ) : Start → Prop
  | .refused why => ending.code = 1 ∧ ending.stderr = "Error: " ++ why.report ++ "\n" ∧
    ending.log = [] ∧ ending.device = output
  | .shows text => ending.code = 0 ∧ ending.stderr = "" ∧ ending.log = [] ∧
    ending.device = device.send [text] output
  | .session _ _ => ending.code = 0 ∧ ending.stderr = ""

theorem EndsAs.code_eq_one_iff {device : Device δ} {output : δ} {ending : Ending σ δ}
    {begun : Start} (ends : EndsAs device output ending begun) :
    ending.code = 1 ↔ ∃ why, begun = .refused why := by
  cases begun with
  | refused why => exact ⟨fun _ => ⟨why, rfl⟩, fun _ => ends.1⟩
  | shows text => simp [ends.1]
  | session flags session => simp [ends.1]

section

variable {host : Host σ} {device : Device δ} {output : δ} {invocation : Invocation}
  {readings : List Reading} {s t : σ}

theorem run_endsAs :
    EndsAs device output (run host device output invocation readings s)
      (start host invocation s).1 := by
  rw [run]
  generalize start host invocation s = started
  obtain ⟨begun, t⟩ := started
  cases begun with
  | refused why => exact ⟨rfl, rfl, rfl, rfl⟩
  | shows text => exact ⟨rfl, rfl, rfl, rfl⟩
  | session flags session => exact ⟨rfl, rfl⟩

/-- Unless a session starts, the program ends where it has started, whatever there is to read. -/
theorem run_of_not_session
    (h : ∀ flags session, (start host invocation s).1 ≠ .session flags session) :
    (run host device output invocation readings s).machine = (start host invocation s).2 ∧
      ∀ others, run host device output invocation others s =
        run host device output invocation readings s := by
  simp only [run]
  generalize start host invocation s = started at h ⊢
  obtain ⟨begun, t⟩ := started
  cases begun with
  | refused why => exact ⟨rfl, fun _ => rfl⟩
  | shows text => exact ⟨rfl, fun _ => rfl⟩
  | session flags session => exact absurd rfl (h flags session)

end

/-- What the program asks of the machine, from its start to its end. -/
def asked (host : Host σ) (device : Device δ) (output : δ) (invocation : Invocation)
    (readings : List Reading) (s : σ) : List HostCall :=
  (run host.watched device output invocation readings (s, [])).machine.2

/-- Unless a session starts, the program asks for nothing but the directory to start in. -/
theorem asked_of_not_session {host : Host σ} {invocation : Invocation} {flags : Flags}
    {error : Option FlagError} {directory : Path} {s : σ}
    (absolute : invocation.directory.isAbsolute = true)
    (parsed : Flags.parse {} invocation.arguments = (flags, error))
    (named : startDirectory host.home invocation.directory flags = some directory)
    (h : ∀ flags session, (start host invocation s).1 ≠ .session flags session)
    (device : Device δ) (output : δ) (readings : List Reading) :
    ∀ call ∈ asked host device output invocation readings s,
      ∃ answer, call = .isDirectory directory answer := by
  have named' : startDirectory host.watched.home invocation.directory flags = some directory :=
    named
  rw [← start_watched absolute named parsed] at h
  rw [asked, (run_of_not_session h).1]
  rcases start_cases absolute named' parsed (s, []) with
    ⟨cause, hstart⟩ | ⟨text, hstart⟩ | hstart | hstart
  · simp [hstart]
  · simp [hstart]
  · intro call hcall
    rw [hstart] at hcall
    obtain rfl := List.mem_singleton.1 hcall
    exact ⟨_, rfl⟩
  · exact absurd (congrArg Prod.fst hstart) (h _ _)

/-- **Starting there.** Let the flags name a directory by a text that is not blank. A session starts in
the directory that this stands for if and only if one that has started in the current directory gets
there by `cd`, and then both sessions are the same. Where the start fails, and a home is known, it is
refused for the path that the text stands for. -/
theorem starting_there (host : Host σ) (here : Path) (flags : Flags) (value : String) (s : σ)
    (run : Run σ) (given : flags.value? .directory = some value)
    (named : Text.isBlankText value = false)
    (started : Session.start? host here s = (some run.session, run.host))
    (still : ∀ path, run.answer (host.isDirectory path) = (host.isDirectory path s).1) :
    let begun := (initialSession host here flags s).1
    let moved := (Command.changeDirectory host value).perform run
    ((∃ session, begun = .ok session) ↔ moved.1 = .ok .proceed) ∧
    (∀ session, begun = .ok session → moved.2.session = session) ∧
    ∀ why, begun = .error why → host.home.isSome = true →
      ∃ target, Path.resolve host.home here value = some target ∧ why = .notDirectory target := by
  intro begun moved
  have started' := congrArg Prod.fst started
  have session : run.session = { directory := here } := Session.eq_of_start? started'
  have absolute : here.isAbsolute = true := by
    have first := Session.isAbsolute_of_start? started'
    rwa [session] at first
  have place : startDirectory host.home here flags = Path.resolve host.home here value := by
    rw [startDirectory, given]
  have seen : Path.resolve host.home run.session.directory value =
      Path.resolve host.home here value := by rw [session]
  cases resolved : Path.resolve host.home here value with
  | none =>
    have unmoved : moved = _ := Command.changeDirectory_of_unresolved named (seen.trans resolved)
    have refused : begun = .error .homeNotFound := by
      simp only [begun, initialSession, place, resolved]
      rfl
    rw [unmoved, refused]
    refine ⟨by simp, by simp, fun why _ known => ?_⟩
    simp [(Path.resolve_eq_none.1 resolved).1] at known
  | some target =>
    have moves := Command.changeDirectory_succeeds named (seen.trans resolved)
    rw [still] at moves
    have begins : begun = if (host.isDirectory target s).1 then .ok { directory := target }
        else .error (.notDirectory target) :=
      congrArg Prod.fst (initialSession_eq absolute (place.trans resolved) s)
    by_cases found : (host.isDirectory target s).1 = true
    · obtain ⟨arrives, -⟩ := Command.changeDirectory_arrives named (seen.trans resolved)
        ((still target).trans found)
      rw [if_pos found] at begins
      rw [begins]
      refine ⟨by simp [moved, moves, found], ?_, by simp⟩
      rintro first ⟨⟩
      rw [show moved.2.session = _ from arrives, session]
    · rw [if_neg found] at begins
      rw [begins]
      refine ⟨by simp [moved, moves, found], by simp, ?_⟩
      rintro why ⟨⟩ -
      exact ⟨target, rfl, rfl⟩

/-- With a home directory that is relative, and so is looked for in the current one; another directory
is not there. -/
theorem started_in_docs :
    let host : Host Unit :=
      { Host.bare with
        home := some (.ofString "me//x/..")
        isDirectory := fun path => pure (["/work", "/work/me/docs"].contains path.display) }
    let here := Path.ofString "/work"
    let run : Run Unit := { session := { directory := here }, host := () }
    let there := Flags.set {} .directory "~/./docs/"
    let astray := Flags.set {} .directory "~/../you"
    Session.start? host here () = (some run.session, run.host) ∧
      (∀ path, run.answer (host.isDirectory path) = (host.isDirectory path ()).1) ∧
      (initialSession host here there ()).1 =
        .ok ((Command.changeDirectory host "~/./docs/").perform run).2.session ∧
      ((Command.changeDirectory host "~/../you").perform run).1 ≠ .ok .proceed ∧
      ∃ target, Path.resolve host.home here "~/../you" = some target ∧
        (initialSession host here astray ()).1 = .error (.notDirectory target) := by
  intro host here run there astray
  have started : Session.start? host here () = (some run.session, run.host) := by
    rw [Session.start?_of_absolute (by decide)]
    rfl
  have still : ∀ path, run.answer (host.isDirectory path) = (host.isDirectory path ()).1 :=
    fun _ => rfl
  obtain ⟨agree, same, -⟩ := starting_there host here there "~/./docs/" () run
    (by decide) (by decide) started still
  obtain ⟨agree', -, refusal⟩ := starting_there host here astray "~/../you" () run
    (by decide) (by decide) started still
  have stayed : ((Command.changeDirectory host "~/../you").perform run).1 ≠ .ok .proceed := by
    decide +kernel
  obtain ⟨session, begins⟩ := agree.2 (by decide +kernel)
  refine ⟨started, still, begins.trans (by rw [same session begins]), stayed, ?_⟩
  cases refused : (initialSession host here astray ()).1 with
  | ok session => exact absurd (agree'.1 ⟨session, refused⟩) stayed
  | error why =>
    obtain ⟨target, resolved, rfl⟩ := refusal why refused rfl
    exact ⟨target, resolved, rfl⟩

end ThemedShell.Program
