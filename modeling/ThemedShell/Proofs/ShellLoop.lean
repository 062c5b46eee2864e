import ThemedShell.Proofs.Display
import ThemedShell.Proofs.Recoloring
import ThemedShell.Shell

/-!
# The shell's loop

The loop of the shell adds nothing to what the interpreter does. Between two readings a shell stands
where a run of the interpreter on the lines read so far stands (`Shell.At`): it has its session and
its machine, paints in the theme of its session, and holds no prompt but that of its session. One
round keeps this (`Shell.At.round`), so a whole loop does (`Shell.At.loop`): the prompt that is
offered is never an old one, and nothing is displayed but the bodies of the turns
(`shell_follows_interpreter`).
-/
namespace ThemedShell

variable {σ δ : Type}

/-! ## Readings as the interpreter sees them -/

namespace Reading

@[simp] def line? : Reading → Option String
  | .line text => some text
  | .interrupted | .endOfInput | .failed => none

theorem filterMap_line?_cons (reading : Reading) (rest : List Reading) :
    (reading :: rest).filterMap line? = reading.line?.toList ++ rest.filterMap line? := by
  cases reading <;> rfl

/-- What a reading comes to: a line is taken, and the end of the input ends the session. -/
@[simp] def turn (host : Host σ) (run : Run σ) : Reading → Outcome × Run σ
  | .line text => Interpreter.execute host text run
  | .interrupted | .failed => (.proceed, run)
  | .endOfInput => (.exit, run)

/-- The outcomes of the lines among the readings, and the run that they leave. -/
def turns (host : Host σ) (run : Run σ) (readings : List Reading) : List Outcome × Run σ :=
  Turn.takeAll host ((readings.filterMap line?).map fun line => { line }) run

variable (host : Host σ) (run : Run σ)

@[simp] theorem turns_nil : turns host run [] = ([], run) := rfl

theorem turns_line (text : String) (rest : List Reading) :
    turns host run (.line text :: rest) =
      ((Interpreter.execute host text run).1 ::
          (turns host (Interpreter.execute host text run).2 rest).1,
        (turns host (Interpreter.execute host text run).2 rest).2) := by
  simp only [turns, List.filterMap_cons, line?, List.map_cons, Turn.takeAll, Turn.take, Turn.start]
  rfl

theorem turns_of_line?_eq_none {reading : Reading} (h : reading.line? = none)
    (rest : List Reading) : turns host run (reading :: rest) = turns host run rest := by
  rw [turns, List.filterMap_cons_none h, turns]

theorem run_turns_cons (reading : Reading) (rest : List Reading) :
    (turns host run (reading :: rest)).2 = (turns host (reading.turn host run).2 rest).2 := by
  cases reading with
  | line text => rw [turns_line, turn]
  | interrupted => rw [turns_of_line?_eq_none _ _ rfl, turn]
  | endOfInput => rw [turns_of_line?_eq_none _ _ rfl, turn]
  | failed => rw [turns_of_line?_eq_none _ _ rfl, turn]

/-- One value for each reading, which depends on the run that the readings before it leave. -/
def along {α : Type} (value : Run σ → Reading → α) (readings : List Reading) : List α :=
  (readings.inits.zip readings).map fun (seen, reading) =>
    value (turns host run seen).2 reading

theorem along_cons {α : Type} (value : Run σ → Reading → α) (reading : Reading)
    (rest : List Reading) :
    along host run value (reading :: rest) =
      value run reading :: along host (reading.turn host run).2 value rest := by
  simp only [along, List.inits_cons, List.zip_cons_cons, List.map_cons, List.zip_map_left,
    List.map_map]
  refine congrArg₂ _ rfl (List.map_congr_left fun entry _ => ?_)
  simp [run_turns_cons]

/-- The session has gone on through these readings. -/
def GoesOn (readings : List Reading) : Prop :=
  .endOfInput ∉ readings ∧ ∀ outcome ∈ (turns host run readings).1, outcome = .proceed

theorem goesOn_cons {reading : Reading} {rest : List Reading}
    (proceeds : (reading.turn host run).1 = .proceed)
    (goesOn : GoesOn host (reading.turn host run).2 rest) : GoesOn host run (reading :: rest) := by
  obtain ⟨notEnded, outcomes⟩ := goesOn
  cases reading with
  | line text =>
    refine ⟨by simpa using notEnded, ?_⟩
    rw [turns_line]
    exact List.forall_mem_cons.2 ⟨proceeds, outcomes⟩
  | interrupted => exact ⟨by simpa using notEnded, by rwa [turns_of_line?_eq_none _ _ rfl]⟩
  | failed => exact ⟨by simpa using notEnded, by rwa [turns_of_line?_eq_none _ _ rfl]⟩
  | endOfInput => exact absurd proceeds (by simp)

/-- The readings that are taken, up to the one that ends the session. -/
def taken (host : Host σ) : Run σ → List Reading → List Reading
  | _, [] => [.endOfInput]
  | run, reading :: rest =>
    match reading.turn host run with
    | (.exit, _) => [reading]
    | (.proceed, after) => reading :: taken host after rest

/-- Of all the readings to come, `past` let the session go on and `last` ends it. -/
structure EndsWith (readings past : List Reading) (last : Reading) : Prop where
  taken_eq : taken host run readings = past ++ [last]
  read : past ++ [last] <+: readings ++ [.endOfInput]
  goesOn : GoesOn host run past
  ends : last = .endOfInput ∨
    ∃ text, last = .line text ∧ (Interpreter.execute host text (turns host run past).2).1 = .exit

theorem EndsWith.cons {reading last : Reading} {readings past : List Reading}
    (proceeds : (reading.turn host run).1 = .proceed)
    (h : EndsWith host (reading.turn host run).2 readings past last) :
    EndsWith host run (reading :: readings) (reading :: past) last where
  taken_eq := by
    have later := h.taken_eq
    rw [taken]
    generalize reading.turn host run = turned at proceeds later
    obtain ⟨_, after⟩ := turned
    obtain rfl := proceeds
    exact congrArg (reading :: ·) later
  read := by simpa using h.read
  goesOn := goesOn_cons host run proceeds h.goesOn
  ends := by simpa only [run_turns_cons] using h.ends

/-- A reading that ends the session does so as the end of the input, or as a line. -/
theorem EndsWith.now {reading : Reading} {readings : List Reading}
    (exits : (reading.turn host run).1 = .exit) :
    EndsWith host run (reading :: readings) [] reading where
  taken_eq := by
    rw [taken]
    generalize reading.turn host run = turned at exits
    obtain ⟨_, after⟩ := turned
    obtain rfl := exits
    rfl
  read := by simp
  goesOn := ⟨List.not_mem_nil, by simp⟩
  ends := by
    cases reading with
    | line text => exact .inr ⟨text, rfl, exits⟩
    | endOfInput => exact .inl rfl
    | interrupted => exact absurd exits (by simp)
    | failed => exact absurd exits (by simp)

end Reading

/-! ## What a turn displays -/

/-- What a terminal in the theme of the session writes when a line is taken. -/
def Interpreter.displayed (host : Host σ) (painter : Painter) (clearing : List String)
    (line : String) (run : Run σ) : String :=
  let told := (execute host line run.fresh).2.calls
  String.join ((SinkCall.underThemes run.session.theme told).map
    (SinkCall.written painter clearing))

/-- Only lines display anything. -/
@[simp] def Reading.displayed (host : Host σ) (painter : Painter) (clearing : List String)
    (run : Run σ) : Reading → String
  | .line text => Interpreter.displayed host painter clearing text run
  | .interrupted | .endOfInput | .failed => ""

/-- What is noted for the log when a reading is taken and all that is written succeeds. -/
@[simp] def Reading.noted (host : Host σ) (run : Run σ) : Reading → List LogEvent
  | .line text =>
    (Interpreter.execute host text run.fresh).2.log ++
      if (Interpreter.execute host text run.fresh).1 = .exit then [.exitRequested] else []
  | .interrupted => []
  | .endOfInput => [.inputEnded]
  | .failed => [.readingFailed]

namespace Interpreter

/-- Echo and prompt are not displayed, only the body is. -/
theorem Transcript.displayed {host : Host σ} {line : String} {run : Run σ} {outcome : Outcome}
    {after : Session} {body calls : List SinkCall} (h : Transcript line outcome after body calls)
    (told : (execute host line run).2.calls = run.calls ++ calls) (painter : Painter)
    (clearing : List String) :
    Interpreter.displayed host painter clearing line run =
      String.join ((SinkCall.underThemes run.session.theme body).map
        (SinkCall.written painter clearing)) := by
  have fresh : (execute host line run.fresh).2.calls = calls := by
    rw [execute_fresh] at told
    exact List.append_cancel_left told
  rw [Interpreter.displayed, fresh, h.calls_eq]
  split <;> simp [SinkCall.underThemes_append, SinkCall.theme?]

/-- A turn leaves the session with the theme that it has applied last. -/
theorem theme_execute (host : Host σ) (line : String) (run : Run σ) (untold : run.calls = []) :
    (execute host line run).2.session.theme =
      SinkCall.lastTheme run.session.theme (execute host line run).2.calls := by
  have kept := Scrollback.theme_receiveAll_execute host line run { theme := run.session.theme }
    (by rw [untold]; rfl)
  rw [← kept, Scrollback.theme_receiveAll]

end Interpreter

/-- The prompt that is held after a turn is that of the session, if one is held at all. -/
theorem Interpreter.Transcript.held {dev : Device δ} {line : String} {outcome : Outcome}
    {after : Session} {body calls : List SinkCall} (h : Transcript line outcome after body calls)
    (t : Terminal δ) (none : t.held = none) :
    ∀ prompt ∈ (t.receiveAll dev calls).held, prompt = after.prompt := by
  intro prompt held
  rw [h.calls_eq] at held
  cases outcome with
  | proceed =>
    rw [if_pos rfl, Terminal.held_receiveAll_prompt] at held
    exact (Option.some.inj held).symm
  | exit =>
    have same : (t.receive dev (.append (.echo ("> " ++ Text.trim line)))).held = t.held := rfl
    rw [if_neg (by decide), h.exit_body rfl, List.append_nil, Terminal.receiveAll, List.foldl_cons,
      List.foldl_nil, same, none] at held
    cases held

/-! ## Shells that stand where a run stands -/

namespace Shell

/-- The shell has come as far as the run: its terminal has the theme of the session, and no prompt
but that of the session. -/
structure At (shell : Shell σ δ) (run : Run σ) : Prop where
  session : shell.session = run.session
  machine : shell.machine = run.host
  theme : shell.terminal.theme = run.session.theme
  held : ∀ prompt ∈ shell.terminal.held, prompt = run.session.prompt

/-- From `shell` to `left`, where the run is reached, prompts have been offered, lines have been run,
a text has been written and events have been noted for the log. -/
structure Advance (around : Surroundings σ δ) (shell left : Shell σ δ) (run : Run σ)
    (offered submitted : List String) (shown : String) (noted : List LogEvent) : Prop where
  reached : left.At run
  /-- The terminal keeps its painter and its address. -/
  inputField : left.terminal.inputField = shell.terminal.inputField
  field : left.field = shell.field
  offered : left.offered = shell.offered ++ offered
  submitted : left.submitted = shell.submitted ++ submitted
  written : ∀ written, around.device.Works written →
    written left.terminal.device = written shell.terminal.device ++ shown
  log : ∀ written, around.device.Works written → left.log = shell.log ++ noted

variable {around : Surroundings σ δ} {shell mid left : Shell σ δ} {run run' : Run σ}

theorem Advance.painter {offered submitted : List String} {shown : String} {noted : List LogEvent}
    (h : Advance around shell left run offered submitted shown noted) :
    left.terminal.painter = shell.terminal.painter :=
  congrArg InputField.painter h.inputField

theorem Advance.refl (h : shell.At run) : Advance around shell shell run [] [] "" [] where
  reached := h
  inputField := rfl
  field := rfl
  offered := (List.append_nil _).symm
  submitted := (List.append_nil _).symm
  written _ _ := String.append_empty.symm
  log _ _ := (List.append_nil _).symm

theorem Advance.trans {offered offered' submitted submitted' : List String} {shown shown' : String}
    {noted noted' : List LogEvent} (h : Advance around shell mid run offered submitted shown noted)
    (h' : Advance around mid left run' offered' submitted' shown' noted') :
    Advance around shell left run' (offered ++ offered') (submitted ++ submitted')
      (shown ++ shown') (noted ++ noted') where
  reached := h'.reached
  inputField := h'.inputField.trans h.inputField
  field := h'.field.trans h.field
  offered := by rw [h'.offered, h.offered, List.append_assoc]
  submitted := by rw [h'.submitted, h.submitted, List.append_assoc]
  written written works := by
    rw [h'.written written works, h.written written works, String.append_assoc]
  log written works := by rw [h'.log written works, h.log written works, List.append_assoc]

variable (around)

theorem At.write (h : shell.At run) (text : String) :
    Advance around shell (shell.write around text) run [] [] text [] where
  reached := ⟨h.session, h.machine, h.theme, h.held⟩
  inputField := rfl
  field := rfl
  offered := (List.append_nil _).symm
  submitted := (List.append_nil _).symm
  written written works := by simp [Shell.write, works.send]
  log _ _ := (List.append_nil _).symm

theorem At.note (h : shell.At run) (event : LogEvent) :
    Advance around shell (shell.note event) run [] [] "" [event] where
  reached := ⟨h.session, h.machine, h.theme, h.held⟩
  inputField := rfl
  field := rfl
  offered := (List.append_nil _).symm
  submitted := (List.append_nil _).symm
  written _ _ := String.append_empty.symm
  log _ _ := rfl

/-! ## One round -/

/-- What the editor writes when it is given a prompt. -/
def echoOfPrompt (run : Run σ) : String :=
  if around.showsPrompt then run.session.prompt else ""

@[simp] def adviceFor : Reading → String
  | .interrupted => if around.quiet then "" else advice
  | .line _ | .endOfInput | .failed => ""

/-- What is written past the terminal in a round. -/
def writtenPast (run : Run σ) (reading : Reading) : String :=
  echoOfPrompt around run ++ adviceFor around reading

/-- The prompt that is offered is that of the session, whether the terminal holds it or not. -/
theorem At.offerPrompt (h : shell.At run) :
    (shell.offerPrompt around).terminal.held = none ∧
      Advance around shell (shell.offerPrompt around) run [run.session.prompt] []
        (echoOfPrompt around run) [] := by
  have prompt : shell.terminal.held.getD shell.session.prompt = run.session.prompt := by
    cases held : shell.terminal.held with
    | none => rw [h.session]; rfl
    | some prompt => exact h.held prompt held
  have taken : Advance around shell
      { shell with
        terminal := { shell.terminal with held := none }
        offered := shell.offered ++ [run.session.prompt] } run [run.session.prompt] [] "" [] :=
    { reached := ⟨h.session, h.machine, h.theme, by simp⟩
      inputField := rfl
      field := rfl
      offered := rfl
      submitted := (List.append_nil _).symm
      written := fun _ _ => String.append_empty.symm
      log := fun _ _ => (List.append_nil _).symm }
  simp only [Shell.offerPrompt, Terminal.takePrompt, prompt, echoOfPrompt]
  split
  · exact ⟨rfl, by simpa using taken.trans (taken.reached.write around run.session.prompt)⟩
  · exact ⟨rfl, taken⟩

/-- A line is taken as the interpreter takes it. -/
theorem At.submit (h : shell.At run) (none : shell.terminal.held = none) (text : String) :
    (shell.submit around text).1 = (Interpreter.execute around.host text run).1 ∧
      Advance around shell (shell.submit around text).2
        (Interpreter.execute around.host text run).2 [] [text]
        (Interpreter.displayed around.host shell.terminal.painter around.device.clearing text run)
        (Interpreter.execute around.host text run.fresh).2.log := by
  -- The shell begins each turn with nothing told or noted, which makes no difference.
  have start : ({ session := shell.session, host := shell.machine } : Run σ) = run.fresh := by
    rw [h.session, h.machine, Run.fresh]
  obtain ⟨body, calls, hcalls, transcript⟩ :=
    Interpreter.execute_transcript around.host text run.fresh
  have theme := Interpreter.theme_execute around.host text run.fresh rfl
  rw [Interpreter.execute_fresh, Shell.submit, start, Interpreter.displayed]
  generalize Interpreter.execute around.host text run.fresh = taken at *
  obtain ⟨outcome, after⟩ := taken
  obtain rfl : after.calls = calls := hcalls
  refine ⟨rfl, ⟨⟨rfl, rfl, ?theme, transcript.held shell.terminal none⟩,
    Terminal.inputField_receiveAll _ _, rfl, (List.append_nil _).symm, rfl,
    fun written works => ?written, fun written works => ?log⟩⟩
  case theme =>
    dsimp only
    rw [Terminal.theme_receiveAll, h.theme, Simulation.session_along, theme]
    rfl
  case written =>
    dsimp only
    rw [Terminal.written_receiveAll works, h.theme]
  case log =>
    dsimp only
    rw [Terminal.notedAll_of_works works, List.append_nil]

/-- A line that ends the shell is noted as well. -/
theorem Advance.noteExit {taken : Outcome × Shell σ δ} {offered submitted : List String}
    {shown : String} {noted : List LogEvent}
    (h : Advance around shell taken.2 run offered submitted shown noted) :
    (Shell.noteExit taken).1 = taken.1 ∧
      Advance around shell (Shell.noteExit taken).2 run offered submitted shown
        (noted ++ if taken.1 = .exit then [.exitRequested] else []) := by
  obtain ⟨outcome, left⟩ := taken
  cases outcome with
  | proceed => exact ⟨rfl, by simpa [Shell.noteExit] using h⟩
  | exit => exact ⟨rfl, by simpa [Shell.noteExit] using h.trans (h.reached.note around _)⟩

/-- A reading is taken as the interpreter takes it. -/
theorem At.take (h : shell.At run) (none : shell.terminal.held = none) (reading : Reading) :
    (shell.take around reading).1 = (reading.turn around.host run).1 ∧
      Advance around shell (shell.take around reading).2 (reading.turn around.host run).2
        [] reading.line?.toList
        (adviceFor around reading ++
          reading.displayed around.host shell.terminal.painter around.device.clearing run)
        (reading.noted around.host run) := by
  cases reading with
  | line text =>
    obtain ⟨outcome, submitted⟩ := h.submit around none text
    obtain ⟨same, noted⟩ := submitted.noteExit around
    refine ⟨same.trans outcome, ?_⟩
    rw [outcome] at noted
    simpa [Shell.take, Interpreter.fst_execute_fresh] using noted
  | interrupted =>
    refine ⟨rfl, ?_⟩
    by_cases quiet : around.quiet = true
    · simpa [Shell.take, quiet] using Advance.refl h
    · simpa [Shell.take, quiet] using h.write around advice
  | endOfInput => exact ⟨rfl, by simpa [Shell.take] using h.note around .inputEnded⟩
  | failed => exact ⟨rfl, by simpa [Shell.take] using h.note around .readingFailed⟩

/-- One round of the loop: the prompt is offered, and a reading is taken. -/
theorem At.round (h : shell.At run) (reading : Reading) :
    ((shell.offerPrompt around).take around reading).1 = (reading.turn around.host run).1 ∧
      Advance around shell ((shell.offerPrompt around).take around reading).2
        (reading.turn around.host run).2 [run.session.prompt] reading.line?.toList
        (writtenPast around run reading ++
          reading.displayed around.host shell.terminal.painter around.device.clearing run)
        (reading.noted around.host run) := by
  obtain ⟨none, offer⟩ := h.offerPrompt around
  obtain ⟨outcome, taken⟩ := offer.reached.take around none reading
  rw [writtenPast, String.append_assoc, ← offer.painter]
  exact ⟨outcome, offer.trans taken⟩

/-! ## The loop -/

section Along

variable (painter : Painter)

/-- The prompts of the session before the first reading and after each of them. -/
def promptsAlong (run : Run σ) (readings : List Reading) : List String :=
  readings.inits.map fun seen => (Reading.turns around.host run seen).2.session.prompt

/-- What is written while readings are taken, each after those before it. -/
def displayedAlong (run : Run σ) (readings : List Reading) : String :=
  String.join (Reading.along around.host run (fun now reading =>
    writtenPast around now reading ++
      reading.displayed around.host painter around.device.clearing now) readings)

/-- What is noted while readings are taken, each after those before it. -/
def notedAlong (host : Host σ) (run : Run σ) (readings : List Reading) : List LogEvent :=
  (Reading.along host run (fun now reading => reading.noted host now) readings).flatten

theorem promptsAlong_cons (run : Run σ) (reading : Reading) (rest : List Reading) :
    promptsAlong around run (reading :: rest) =
      run.session.prompt :: promptsAlong around (reading.turn around.host run).2 rest := by
  simp [promptsAlong, Function.comp_def, Reading.run_turns_cons]

theorem displayedAlong_cons (run : Run σ) (reading : Reading) (rest : List Reading) :
    displayedAlong around painter run (reading :: rest) =
      writtenPast around run reading ++
          reading.displayed around.host painter around.device.clearing run ++
        displayedAlong around painter (reading.turn around.host run).2 rest := by
  simp only [displayedAlong, Reading.along_cons, String.join_cons]

theorem notedAlong_cons (host : Host σ) (run : Run σ) (reading : Reading) (rest : List Reading) :
    notedAlong host run (reading :: rest) =
      reading.noted host run ++ notedAlong host (reading.turn host run).2 rest := by
  simp only [notedAlong, Reading.along_cons, List.flatten_cons]

@[simp] theorem displayedAlong_singleton (run : Run σ) (reading : Reading) :
    displayedAlong around painter run [reading] = writtenPast around run reading ++
      reading.displayed around.host painter around.device.clearing run := by
  rw [displayedAlong_cons]
  exact String.append_empty

@[simp] theorem notedAlong_singleton (host : Host σ) (run : Run σ) (reading : Reading) :
    notedAlong host run [reading] = reading.noted host run := by
  rw [notedAlong_cons]
  exact List.append_nil _

end Along

/-- The loop ends where the interpreter has come to with the lines up to the end. -/
theorem At.loop : ∀ (readings : List Reading) {shell : Shell σ δ} {run : Run σ}, shell.At run →
    ∃ past last, Reading.EndsWith around.host run readings past last ∧
      Advance around shell (shell.loop around readings)
        (Reading.turns around.host run (past ++ [last])).2
        (promptsAlong around run past) ((past ++ [last]).filterMap Reading.line?)
        (displayedAlong around shell.terminal.painter run (past ++ [last]))
        (notedAlong around.host run (past ++ [last]))
  | [], shell, run, h => by
    obtain ⟨-, advance⟩ := h.round around .endOfInput
    refine ⟨[], .endOfInput, ⟨rfl, by simp, ⟨List.not_mem_nil, by simp⟩, .inl rfl⟩, ?_⟩
    rwa [List.nil_append, displayedAlong_singleton, notedAlong_singleton]
  | reading :: rest, shell, run, h => by
    obtain ⟨outcome, advance⟩ := h.round around reading
    rw [Shell.loop]
    generalize (shell.offerPrompt around).take around reading = taken at *
    obtain ⟨ended, next⟩ := taken
    cases ended with
    | exit =>
      refine ⟨[], reading, .now around.host run outcome.symm, ?_⟩
      rwa [List.nil_append, Reading.run_turns_cons, Reading.filterMap_line?_cons,
        List.filterMap_nil, List.append_nil, displayedAlong_singleton, notedAlong_singleton]
    | proceed =>
      obtain ⟨past, last, ends, later⟩ := At.loop rest advance.reached
      refine ⟨reading :: past, last, ends.cons around.host run outcome.symm, ?_⟩
      rw [advance.painter] at later
      rw [List.cons_append, Reading.run_turns_cons, Reading.filterMap_line?_cons, promptsAlong_cons,
        displayedAlong_cons, notedAlong_cons]
      exact advance.trans later

/-! ## From start to end -/

/-- The greeting as it is displayed. -/
def greeting (painter : Painter) (session : Session) (user : String) : String :=
  if around.quiet then ""
  else String.join ((banner session user).map fun line => painter.display (line, session.theme))

theorem isOutput_of_mem_banner {session : Session} {user : String} {line : Line}
    (h : line ∈ banner session user) : line.IsOutput := by
  simp only [banner, List.mem_cons, List.not_mem_nil, or_false] at h
  rcases h with rfl | rfl | rfl | rfl <;> simp [Line.IsOutput, Line.plain]

theorem At.greet (h : shell.At run) (user : String) :
    Advance around shell (shell.greet around user) run [] []
      (greeting around shell.terminal.painter run.session user) [] := by
  refine ⟨⟨h.session, h.machine, ?theme, ?held⟩, Terminal.inputField_receiveAll _ _, rfl,
    (List.append_nil _).symm, (List.append_nil _).symm, fun written works => ?written,
    fun written works => ?log⟩
  case theme =>
    refine (Terminal.theme_receiveAll _ _).trans ?_
    rw [SinkCall.lastTheme_map_append, h.theme]
  case held =>
    intro prompt held
    rw [Shell.greet, tell, List.map_append] at held
    have prompted := (Terminal.held_receiveAll_prompt _ _ _).symm.trans held
    rw [← Option.some.inj prompted, h.session]
  case written =>
    rw [Shell.greet, tell, Terminal.written_receiveAll works, SinkCall.underThemes_map_append,
      greeting, h.session, h.theme]
    have display : ∀ line ∈ banner run.session user, _ := fun line hline =>
      SinkCall.written_of_isOutput shell.terminal.painter around.device.clearing run.session.theme
        (isOutput_of_mem_banner hline)
    split
    · simp
    · simpa [Function.comp_def] using congrArg String.join (List.map_congr_left display)
  case log => rw [Shell.greet, tell, Terminal.notedAll_of_works works]

/-- A new shell stands at the start. -/
theorem at_new (session : Session) (machine : σ) (state : δ) (painter : Painter) :
    (new session machine state painter).At { session, host := machine } where
  session := rfl
  machine := rfl
  theme := ThemeCells.read_write_self {} {} session.theme
  held := by simp [new]

end Shell

end ThemedShell
