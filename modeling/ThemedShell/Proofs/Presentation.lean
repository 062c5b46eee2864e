import Mathlib.Data.List.Forall2
import ThemedShell.Proofs.ShellLoop
import ThemedShell.Proofs.Start

/-!
# Presentation

Some flags only say how a shell presents what it does: quietly, without colours, or with a fuller
log. Two shells agree if they differ in nothing but their painters, devices and logs (`Shell.Agrees`).
A round keeps this, whether the shells are quiet or not (`Shell.Agrees.take`), so they agree after
every round (`Shell.Agrees.rounds`). What a shell displays comes in pieces, which each painter paints
in its own way (`Shell.At.written_loop`). So arguments that differ in such flags alone change nothing
but the painter, the greeting, and the filter of the log (`flags_change_presentation_only`).
-/
namespace ThemedShell

variable {σ δ ε : Type}

/-! ## Terminals that agree -/

/-- Terminals that hold the same prompt and have the same theme. -/
structure Terminal.Agrees (t : Terminal δ) (t' : Terminal ε) : Prop where
  theme : t.theme = t'.theme
  held : t.held = t'.held

namespace Terminal.Agrees

theorem symm {t : Terminal δ} {t' : Terminal ε} (h : t.Agrees t') : t'.Agrees t :=
  ⟨h.theme.symm, h.held.symm⟩

variable {dev : Device δ} {dev' : Device ε} {t : Terminal δ} {t' : Terminal ε}

theorem receive (h : t.Agrees t') (call : SinkCall) :
    (t.receive dev call).Agrees (t'.receive dev' call) := by
  obtain ⟨theme, held⟩ := h
  refine ⟨by rw [theme_receive, theme_receive, theme], ?_⟩
  cases call <;> simp [Terminal.receive, heldAfter, held]

theorem receiveAll (h : t.Agrees t') (calls : List SinkCall) :
    (t.receiveAll dev calls).Agrees (t'.receiveAll dev' calls) := by
  induction calls generalizing t t' with
  | nil => exact h
  | cons call calls ih => exact ih (h.receive call)

/-- It makes no difference whether a terminal is told of lines that are no prompts. -/
theorem receiveAll_output (dev : Device δ) (h : t.Agrees t') {lines : List Line}
    (output : ∀ line ∈ lines, line.IsOutput) :
    (t.receiveAll dev (lines.map .append)).Agrees t' := by
  induction lines generalizing t with
  | nil => exact h
  | cons line lines ih =>
    obtain ⟨first, rest⟩ := List.forall_mem_cons.1 output
    refine ih ⟨?_, ?_⟩ rest
    · rw [theme_receive, h.theme]
      rfl
    · simp [Terminal.receive, heldAfter, first.2, h.held]

end Terminal.Agrees

/-! ## Shells that agree -/

namespace Shell

/-- Shells that differ in nothing but their painters and in what has been written and noted. -/
structure Agrees (shell : Shell σ δ) (shell' : Shell σ ε) : Prop where
  session : shell.session = shell'.session
  machine : shell.machine = shell'.machine
  terminal : shell.terminal.Agrees shell'.terminal
  offered : shell.offered = shell'.offered
  submitted : shell.submitted = shell'.submitted

/-- The rounds of a loop: the outcome of each, with the shell after it. -/
def rounds (around : Surroundings σ δ) (shell : Shell σ δ) :
    List Reading → List (Outcome × Shell σ δ)
  | [] => [(.exit, (shell.offerPrompt around).note .inputEnded)]
  | reading :: rest =>
    match (shell.offerPrompt around).take around reading with
    | (.exit, shell) => [(.exit, shell)]
    | (.proceed, shell) => (.proceed, shell) :: rounds around shell rest

/-- A loop ends as its last round does. -/
theorem getLast?_rounds (around : Surroundings σ δ) :
    ∀ (readings : List Reading) (shell : Shell σ δ),
      (shell.rounds around readings).getLast? = some (.exit, shell.loop around readings)
  | [], _ => rfl
  | reading :: rest, shell => by
    rw [rounds, loop]
    generalize (shell.offerPrompt around).take around reading = taken
    obtain ⟨ended, left⟩ := taken
    cases ended with
    | exit => rfl
    | proceed => exact (List.getLast?_cons ..).trans (by rw [getLast?_rounds around rest left]; rfl)

namespace Agrees

variable {around : Surroundings σ δ} {around' : Surroundings σ ε} {shell : Shell σ δ}
  {shell' : Shell σ ε}

/-- What is written past the terminal does not matter. -/
theorem write (h : shell.Agrees shell') (text : String) : (shell.write around text).Agrees shell' :=
  ⟨h.session, h.machine, ⟨h.terminal.theme, h.terminal.held⟩, h.offered, h.submitted⟩

/-- What is noted does not matter. -/
theorem note (h : shell.Agrees shell') (event event' : LogEvent) :
    (shell.note event).Agrees (shell'.note event') :=
  ⟨h.session, h.machine, h.terminal, h.offered, h.submitted⟩

theorem symm (h : shell.Agrees shell') : shell'.Agrees shell :=
  ⟨h.session.symm, h.machine.symm, h.terminal.symm, h.offered.symm, h.submitted.symm⟩

theorem offerPrompt (h : shell.Agrees shell') :
    (shell.offerPrompt around).Agrees (shell'.offerPrompt around') := by
  have taken : Agrees
      { shell with
        terminal := shell.terminal.takePrompt.2
        offered := shell.offered ++ [shell.terminal.held.getD shell.session.prompt] }
      { shell' with
        terminal := shell'.terminal.takePrompt.2
        offered := shell'.offered ++ [shell'.terminal.held.getD shell'.session.prompt] } :=
    ⟨h.session, h.machine, ⟨h.terminal.theme, rfl⟩, by
      rw [h.offered, h.terminal.held, h.session], h.submitted⟩
  simp only [Shell.offerPrompt]
  split <;> split
  · exact (taken.write _).symm.write _ |>.symm
  · exact taken.write _
  · exact (taken.symm.write _).symm
  · exact taken

/-- A line comes to the same in both shells. -/
theorem submit (h : shell.Agrees shell') (host : around.host = around'.host) (text : String) :
    (shell.submit around text).1 = (shell'.submit around' text).1 ∧
      (shell.submit around text).2.Agrees (shell'.submit around' text).2 := by
  rw [Shell.submit, Shell.submit, host, h.session, h.machine]
  generalize Interpreter.execute around'.host text
    { session := shell'.session, host := shell'.machine } = taken
  obtain ⟨outcome, run⟩ := taken
  exact ⟨rfl, rfl, rfl, h.terminal.receiveAll _, h.offered, congrArg (· ++ [text]) h.submitted⟩

/-- A reading comes to the same in both shells. Whether one of them is quiet does not matter. -/
theorem take (h : shell.Agrees shell') (host : around.host = around'.host) (reading : Reading) :
    (shell.take around reading).1 = (shell'.take around' reading).1 ∧
      (shell.take around reading).2.Agrees (shell'.take around' reading).2 := by
  cases reading with
  | line text =>
    have submitted := h.submit host text
    simp only [Shell.take, noteExit, submitted.1, true_and]
    split
    · exact submitted.2.note _ _
    · exact submitted.2
  | interrupted =>
    refine ⟨rfl, ?_⟩
    simp only [Shell.take]
    split <;> split
    · exact h
    · exact (h.symm.write _).symm
    · exact h.write _
    · exact (h.write _).symm.write _ |>.symm
  | endOfInput => exact ⟨rfl, h.note _ _⟩
  | failed => exact ⟨rfl, h.note _ _⟩

/-- **Shells that agree go on agreeing**, round by round. -/
theorem rounds (host : around.host = around'.host) :
    ∀ (readings : List Reading) {shell : Shell σ δ} {shell' : Shell σ ε}, shell.Agrees shell' →
      List.Forall₂ (fun round round' => round.1 = round'.1 ∧ round.2.Agrees round'.2)
        (shell.rounds around readings) (shell'.rounds around' readings)
  | [], _, _, h => .cons ⟨rfl, h.offerPrompt.note _ _⟩ .nil
  | reading :: rest, shell, shell', h => by
    have offered : (shell.offerPrompt around).Agrees (shell'.offerPrompt around') := h.offerPrompt
    obtain ⟨outcome, agrees⟩ := offered.take host reading
    simp only [Shell.rounds]
    generalize (shell.offerPrompt around).take around reading = taken at *
    generalize (shell'.offerPrompt around').take around' reading = taken' at *
    obtain ⟨ended, left⟩ := taken
    obtain ⟨ended', left'⟩ := taken'
    obtain rfl : ended = ended' := outcome
    cases ended with
    | exit => exact .cons ⟨rfl, agrees⟩ .nil
    | proceed => exact .cons ⟨rfl, agrees⟩ (rounds host rest agrees)

theorem loop (h : shell.Agrees shell') (host : around.host = around'.host)
    (readings : List Reading) :
    (shell.loop around readings).Agrees (shell'.loop around' readings) := by
  have last := List.forall₂_reverse_iff.2 (rounds host readings h)
  have left := getLast?_rounds around readings shell
  have left' := getLast?_rounds around' readings shell'
  rw [← List.head?_reverse] at left left'
  generalize (shell.rounds around readings).reverse = ended at *
  generalize (shell'.rounds around' readings).reverse = ended' at *
  cases last with
  | nil => cases left
  | cons same _ =>
    cases left
    cases left'
    exact same.2

/-- A greeting leaves behind nothing but the prompt. -/
theorem greet (h : shell.Agrees shell') (user : String) :
    (shell.greet around user).Agrees (shell'.greet around' user) := by
  refine ⟨h.session, h.machine, ?_, h.offered, h.submitted⟩
  have output : ∀ (quiet : Bool) (session : Session),
      ∀ line ∈ if quiet then [] else banner session user, line.IsOutput := by
    intro quiet session line hline
    cases quiet with
    | true => exact absurd hline List.not_mem_nil
    | false => exact isOutput_of_mem_banner hline
  have greeted := (h.terminal.receiveAll_output around.device
    (output around.quiet shell'.session)).symm.receiveAll_output around'.device
    (output around'.quiet shell'.session)
  simp only [Shell.greet, tell, List.map_append, Terminal.receiveAll, List.foldl_append, h.session]
  exact greeted.symm.receiveAll [.append (.prompt shell'.session.prompt)]

theorem run (h : shell.Agrees shell') (host : around.host = around'.host) (user : String)
    (readings : List Reading) :
    (shell.run around user readings).Agrees (shell'.run around' user readings) :=
  (h.greet user).loop host readings

end Agrees

theorem agrees_new (session : Session) (machine : σ) (state : δ) (state' : ε)
    (painter painter' : Painter) :
    (new session machine state painter).Agrees (new session machine state' painter') :=
  ⟨rfl, rfl, ⟨(at_new ..).theme.trans (at_new ..).theme.symm, rfl⟩, rfl, rfl⟩

end Shell

/-! ## Pieces of what is displayed -/

/-- A piece of what a shell displays, before it is painted. -/
inductive Piece where
  | output (line : Line) (theme : Theme)
  | clearing
  /-- A prompt that the editor writes. -/
  | prompt (text : String)
deriving DecidableEq, Repr

namespace Piece

/-- The piece without colours, where `clearing` is written to clear the display. -/
def unpainted (clearing : List String) : Piece → String
  | .output line _ => line.text ++ "\n"
  | .clearing => String.join clearing
  | .prompt text => text

/-- The piece as a painter displays it. -/
def shown (painter : Painter) (clearing : List String) : Piece → String
  | .output line theme => painter.display (line, theme)
  | .clearing => String.join clearing
  | .prompt text => text

/-- The pieces, one after the other, as a painter displays them. -/
def display (painter : Painter) (clearing : List String) (pieces : List Piece) : String :=
  String.join (pieces.map (shown painter clearing))

/-- The piece that a call under a theme puts on a display. -/
def ofCall? : SinkCall × Theme → Option Piece
  | (.append line, theme) => if line.IsOutput then some (.output line theme) else none
  | (.clear, _) => some .clearing
  | (.applyTheme _, _) => none

theorem shown_of_isPlain {painter : Painter} (plain : painter.isPlain = true)
    (clearing : List String) (piece : Piece) :
    piece.shown painter clearing = piece.unpainted clearing := by
  cases piece with
  | output line theme => rw [shown, Painter.display, Painter.paint_of_isPlain plain, unpainted]
  | clearing => rfl
  | prompt text => rfl

variable (painter : Painter) (clearing : List String)

@[simp] theorem display_append (pieces more : List Piece) :
    display painter clearing (pieces ++ more) =
      display painter clearing pieces ++ display painter clearing more := by
  simp [display]

theorem display_flatten (groups : List (List Piece)) :
    display painter clearing groups.flatten =
      String.join (groups.map (display painter clearing)) := by
  induction groups with
  | nil => rfl
  | cons group groups ih =>
    rw [List.flatten_cons, display_append, ih, List.map_cons, String.join_cons]

/-- What is written for a call is its piece, if it has one. -/
theorem written_eq (entry : SinkCall × Theme) :
    SinkCall.written painter clearing entry =
      display painter clearing (ofCall? entry).toList := by
  obtain ⟨call, theme⟩ := entry
  cases call with
  | append line =>
    by_cases output : line.IsOutput <;> simp [SinkCall.written, ofCall?, output, display, shown]
  | clear => simp [SinkCall.written, ofCall?, display, shown]
  | applyTheme theme => rfl

theorem join_written (entries : List (SinkCall × Theme)) :
    String.join (entries.map (SinkCall.written painter clearing)) =
      display painter clearing (entries.filterMap ofCall?) := by
  induction entries with
  | nil => rfl
  | cons entry entries ih =>
    rw [List.map_cons, String.join_cons, ih, written_eq, ← display_append]
    cases h : ofCall? entry <;> simp [h]

end Piece

/-- The pieces that a line displays when it is taken. -/
def Interpreter.pieces (host : Host σ) (line : String) (run : Run σ) : List Piece :=
  let told := (execute host line run.fresh).2.calls
  (SinkCall.underThemes run.session.theme told).filterMap Piece.ofCall?

/-- The pieces that a reading displays when it is taken. -/
@[simp] def Reading.pieces (host : Host σ) (run : Run σ) : Reading → List Piece
  | .line text => Interpreter.pieces host text run
  | .interrupted | .endOfInput | .failed => []

theorem Reading.displayed_eq (host : Host σ) (painter : Painter) (clearing : List String)
    (run : Run σ) (reading : Reading) :
    reading.displayed host painter clearing run =
      Piece.display painter clearing (reading.pieces host run) := by
  cases reading with
  | line text => exact Piece.join_written painter clearing _
  | interrupted | endOfInput | failed => rfl

namespace Shell

/-- The pieces that the editor displays when it is given a prompt. -/
def promptPieces (showsPrompt : Bool) (run : Run σ) : List Piece :=
  if showsPrompt then [.prompt run.session.prompt] else []

/-- The pieces that a loop displays, where nobody interrupts it: for each reading that is taken those
of the prompt, and those of the reading. -/
def pieces (host : Host σ) (showsPrompt : Bool) (run : Run σ) (readings : List Reading) :
    List Piece :=
  (Reading.along host run (fun now reading =>
    promptPieces showsPrompt now ++ reading.pieces host now)
    (Reading.taken host run readings)).flatten

/-- The events that a loop notes, if all that is written succeeds. -/
def events (host : Host σ) (run : Run σ) (readings : List Reading) : List LogEvent :=
  notedAlong host run (Reading.taken host run readings)

/-- The pieces of the greeting. -/
def greetingPieces (quiet : Bool) (session : Session) (user : String) : List Piece :=
  if quiet then [] else (banner session user).map fun line => .output line session.theme

variable {around : Surroundings σ δ} {shell : Shell σ δ} {run : Run σ}

theorem greeting_eq (painter : Painter) (session : Session) (user : String) :
    greeting around painter session user =
      Piece.display painter around.device.clearing
        (greetingPieces around.quiet session user) := by
  rw [greeting, greetingPieces]
  split
  · rfl
  · rw [Piece.display, List.map_map]
    rfl

theorem echoOfPrompt_eq (painter : Painter) :
    echoOfPrompt around run =
      Piece.display painter around.device.clearing (promptPieces around.showsPrompt run) := by
  rw [echoOfPrompt, promptPieces]
  split <;> simp [Piece.display, Piece.shown]

/-- What a round writes that is no interruption. -/
theorem display_round (painter : Painter) {reading : Reading} (h : reading ≠ .interrupted) :
    writtenPast around run reading ++
        reading.displayed around.host painter around.device.clearing run =
      Piece.display painter around.device.clearing
        (promptPieces around.showsPrompt run ++ reading.pieces around.host run) := by
  have silent : adviceFor around reading = "" := by
    cases reading with
    | interrupted => exact absurd rfl h
    | line | endOfInput | failed => rfl
  rw [writtenPast, silent, String.append_empty, Reading.displayed_eq, Piece.display_append,
    echoOfPrompt_eq]

/-- What is written along readings are their pieces, if none of them is an interruption. -/
theorem displayedAlong_eq (painter : Painter) {readings : List Reading}
    (uninterrupted : .interrupted ∉ readings) :
    displayedAlong around painter run readings =
      Piece.display painter around.device.clearing (Reading.along around.host run
        (fun now reading => promptPieces around.showsPrompt now ++ reading.pieces around.host now)
        readings).flatten := by
  rw [displayedAlong, Piece.display_flatten, Reading.along, Reading.along, List.map_map]
  refine congrArg String.join (List.map_congr_left fun entry hentry => display_round painter ?_)
  rintro interrupted
  exact uninterrupted (interrupted ▸ (List.of_mem_zip hentry).2)

/-- What a loop writes are its pieces, each as the painter displays it. -/
theorem At.written_loop {written : δ → String} (works : around.device.Works written)
    (h : shell.At run) {readings : List Reading} (uninterrupted : .interrupted ∉ readings) :
    written (shell.loop around readings).terminal.device = written shell.terminal.device ++
      Piece.display shell.terminal.painter around.device.clearing
        (pieces around.host around.showsPrompt run readings) := by
  obtain ⟨past, last, ends, looped⟩ := h.loop around readings
  have uninterrupted' : .interrupted ∉ past ++ [last] := fun hmem =>
    absurd (ends.read.subset hmem) (by simp [uninterrupted])
  rw [looped.written written works, displayedAlong_eq _ uninterrupted', pieces, ends.taken_eq]

/-- On a device that works a loop notes its events and nothing else. -/
theorem At.log_loop {written : δ → String} (works : around.device.Works written)
    (h : shell.At run) (readings : List Reading) :
    (shell.loop around readings).log = shell.log ++ events around.host run readings := by
  obtain ⟨past, last, ends, looped⟩ := h.loop around readings
  rw [looped.log written works, events, ends.taken_eq]

end Shell

/-! ## The program -/

namespace Program

/-- Neither the help nor the version is asked for. -/
def AsksForSession (flags : Flags) : Prop :=
  flags.isSet .help = false ∧ flags.isSet .version = false

/-- Where a shell runs that has been started with the flags. -/
def Invocation.surroundings (invocation : Invocation) (host : Host σ) (device : Device δ)
    (flags : Flags) : Surroundings σ δ :=
  { host, device, quiet := flags.isSet .quiet
    showsPrompt := invocation.toolkit.showsPrompt invocation.environment }

/-- The greeted shell that has been started with the flags. -/
def Invocation.shell (invocation : Invocation) (host : Host σ) (device : Device δ) (output : δ)
    (flags : Flags) (session : Session) (s : σ) : Shell σ δ :=
  (Shell.new session s output (invocation.painter flags)).greet
    (invocation.surroundings host device flags) (Shell.userName invocation.environment)

variable {host : Host σ} {device : Device δ} {output : δ} {invocation : Invocation}
  {flags flags' : Flags}

/-- Flags that ask for a session have no say in how it starts, but for the directory. -/
theorem start_of_asksForSession
    (parsed : Flags.parse {} invocation.arguments = (flags, none)) (asks : AsksForSession flags)
    (s : σ) :
    start host invocation s =
      match initialSession host invocation.directory flags s with
      | (.ok session, t) => (.session flags session, t)
      | (.error why, t) => (.refused why, t) := by
  rw [start, parsed]
  simp only [asks.1, asks.2, Bool.false_eq_true, if_false, bind, StateT.bind]
  cases initialSession host invocation.directory flags s with
  | mk result t => cases result <;> rfl

theorem initialSession_congr (same : flags.value? .directory = flags'.value? .directory)
    (host : Host σ) (here : Path) :
    initialSession host here flags = initialSession host here flags' := by
  simp only [initialSession, startDirectory, same]

/-- The program ends as its shell does. Of all that the shell has noted, the log holds what the filter
lets through. -/
theorem run_of_session {session : Session} {s t : σ}
    (h : start host invocation s = (.session flags session, t)) (readings : List Reading) :
    let final := (invocation.shell host device output flags session t).loop
      (invocation.surroundings host device flags) readings
    run host device output invocation readings s =
      { log := final.log.filter (invocation.logFilter flags)
        device := final.terminal.device, machine := final.machine } := by
  rw [run, h]
  rfl

/-- A greeted shell stands at the start. It has displayed the greeting, and noted nothing. -/
theorem Invocation.greeted (session : Session) (t : σ) :
    Shell.Advance (invocation.surroundings host device flags)
      (.new session t output (invocation.painter flags))
      (invocation.shell host device output flags session t) { session, host := t } [] []
      (Shell.greeting (invocation.surroundings host device flags) (invocation.painter flags) session
        (Shell.userName invocation.environment)) [] :=
  (Shell.at_new session t output (invocation.painter flags)).greet _ _

section

variable {session : Session} {s t : σ} {readings : List Reading}
  (h : start host invocation s = (.session flags session, t))
  {written : δ → String} (works : device.Works written)
include h works

/-- On a device that works stands the greeting, and behind it what the shell has displayed. -/
theorem written_of_session (uninterrupted : .interrupted ∉ readings) :
    written (run host device output invocation readings s).device = written output ++
      Piece.display (invocation.painter flags) device.clearing
        (Shell.greetingPieces (flags.isSet .quiet) session (Shell.userName invocation.environment) ++
          Shell.pieces host (invocation.toolkit.showsPrompt invocation.environment)
            { session, host := t } readings) := by
  have greeted := @Invocation.greeted _ _ host device output invocation flags session t
  rw [run_of_session h]
  refine (greeted.reached.written_loop works uninterrupted).trans ?_
  rw [greeted.written written works, greeted.painter, Shell.greeting_eq, Piece.display_append,
    String.append_assoc]
  rfl

/-- If the device works, nothing is noted but the events of the loop. -/
theorem log_of_session :
    (run host device output invocation readings s).log =
      (Shell.events host { session, host := t } readings).filter (invocation.logFilter flags) := by
  have greeted := @Invocation.greeted _ _ host device output invocation flags session t
  rw [run_of_session h]
  refine congrArg (List.filter _) ((greeted.reached.log_loop works readings).trans ?_)
  rw [greeted.log written works]
  rfl

end

/-! ### Filters -/

/-- Without a variable the log holds warnings and errors, and with the flag for finding faults all. -/
theorem logFilter_of_byLevel (byLevel : invocation.toolkit.logging.ByLevel)
    (unset : invocation.environment.value? Logging.variableName = none) (flags : Flags)
    (event : LogEvent) :
    invocation.logFilter flags event =
      (flags.isSet .debug || decide (event.level.rank ≤ LogLevel.warning.rank)) := by
  rw [Invocation.logFilter, Logging.filter, unset]
  refine (byLevel _ event).trans ?_
  cases flags.isSet .debug with
  | true => exact decide_eq_true (by cases event <;> simp [LogEvent.level, LogLevel.rank])
  | false => rfl

/-- A filter in the variable goes before the flag. -/
theorem logFilter_of_variable {filter : LogFilter}
    (set : (invocation.environment.value? Logging.variableName).bind
      invocation.toolkit.logging.filter? = some filter) (flags : Flags) :
    invocation.logFilter flags = filter := by
  rw [Invocation.logFilter, Logging.filter, set, Option.getD_some]

/-! ### Two starts -/

/-- Two starts that differ in presentation only: in the same place both ask for a session, in the
same directory. -/
structure DifferInPresentation (invocation invocation' : Invocation) (flags flags' : Flags) :
    Prop where
  environment : invocation'.environment = invocation.environment
  here : invocation'.directory = invocation.directory
  toolkit : invocation'.toolkit = invocation.toolkit
  parsed : Flags.parse {} invocation.arguments = (flags, none)
  parsed' : Flags.parse {} invocation'.arguments = (flags', none)
  asks : AsksForSession flags
  asks' : AsksForSession flags'
  directory : flags'.value? .directory = flags.value? .directory

namespace DifferInPresentation

variable {invocation' : Invocation} (h : DifferInPresentation invocation invocation' flags flags')
include h

/-- What flags ask for, they ask for in both. -/
theorem same (flags : Flags) :
    invocation'.painter flags = invocation.painter flags ∧
      invocation'.logFilter flags = invocation.logFilter flags ∧
      (∀ (host : Host σ) (device : Device δ),
        invocation'.surroundings host device flags = invocation.surroundings host device flags) := by
  simp only [Invocation.painter, Invocation.logFilter, Invocation.surroundings, h.environment,
    h.toolkit, implies_true, and_self]

/-- Either both are refused for the same reason, or the same session starts. -/
theorem start (host : Host σ) (s : σ) :
    (∃ why t, start host invocation s = (.refused why, t) ∧
      start host invocation' s = (.refused why, t)) ∨
    ∃ session t, start host invocation s = (.session flags session, t) ∧
      start host invocation' s = (.session flags' session, t) := by
  rw [start_of_asksForSession h.parsed h.asks, start_of_asksForSession h.parsed' h.asks', h.here,
    initialSession_congr h.directory]
  obtain ⟨result, t⟩ := initialSession host invocation.directory flags s
  cases result with
  | ok session => exact .inr ⟨session, t, rfl, rfl⟩
  | error why => exact .inl ⟨why, t, rfl, rfl⟩

/-- Both shells have been told the same, but for the greeting. -/
theorem agrees (host : Host σ) (device : Device δ) (output : δ) (session : Session) (s : σ) :
    (invocation.shell host device output flags session s).Agrees
      (invocation'.shell host device output flags' session s) := by
  rw [Invocation.shell, Invocation.shell, h.environment]
  exact (Shell.agrees_new ..).greet _

/-- Both end in the same way and leave the same machine. -/
theorem run (host : Host σ) (device : Device δ) (output : δ) (readings : List Reading) (s : σ) :
    let ending := run host device output invocation readings s
    let ending' := run host device output invocation' readings s
    ending'.code = ending.code ∧ ending'.stderr = ending.stderr ∧
      ending'.machine = ending.machine := by
  rcases h.start host s with ⟨why, t, started, started'⟩ | ⟨session, t, started, started'⟩
  · simp only [Program.run, started, started', and_self]
  · simp only [run_of_session started, run_of_session started', true_and]
    have host_eq : (invocation.surroundings host device flags).host =
        (invocation'.surroundings host device flags').host := rfl
    exact ((h.agrees host device output session t).loop host_eq readings).machine.symm

end DifferInPresentation

end Program

end ThemedShell
