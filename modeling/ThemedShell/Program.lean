import ThemedShell.Path.Home
import ThemedShell.Shell
import ThemedShell.Text.Quoted

/-!
# The program

The program reads its flags and then shows its help or its version, starts a shell, or refuses.
What it leaves to libraries is a `Toolkit`. `run` is `main` with `Shell.run`; `start` is `main` up to
there, with `initialSession` for `initial_session`; `logFilter` is `init_logging`.
-/
namespace ThemedShell.Program

/-- What libraries bring. Nothing is known of them but that they are there. -/
structure Toolkit where
  styling : Styling := .usual
  /-- Whether the editor writes the prompt to the output. -/
  showsPrompt : Environment → Bool := Editor.showsPrompt
  logging : Logging := .usual

/-- What the program finds when it is started. -/
structure Invocation where
  arguments : List String
  environment : Environment
  directory : Path
  toolkit : Toolkit := {}

/-! ## How a start ends -/

/-- Why the program refuses to start. -/
inductive Refusal where
  | flag (cause : FlagError)
  | homeNotFound
  | notDirectory (directory : Path)
deriving DecidableEq, Repr

/-- The report of a refusal, which names its kind and quotes what it is about. -/
def Refusal.report : Refusal → String
  | .flag (.missingValue argument) => "Flag(MissingValue(" ++ Text.quoted argument ++ "))"
  | .flag (.unknown argument) => "Flag(Unknown(" ++ Text.quoted argument ++ "))"
  | .homeNotFound => "HomeDirNotFound"
  | .notDirectory directory => "InvalidStartDir(" ++ Text.quotedName directory.bytes ++ ")"

inductive Start where
  | refused (why : Refusal)
  /-- Shows a text and ends. -/
  | shows (text : String)
  | session (flags : Flags) (session : Session)

/-! ## Starting -/

def versionText : String := "tinta 0.0.1\n"

/-- The directory to start in: the one that the flags name, as seen from the current one. -/
def startDirectory (home : Option Path) (here : Path) (flags : Flags) : Option Path :=
  match flags.value? .directory with
  | some directory => Path.resolve home here directory
  | none => some here

variable {σ δ : Type}

/-- The first session. -/
def initialSession (host : Host σ) (here : Path) (flags : Flags) :
    StateM σ (Except Refusal Session) := do
  match startDirectory host.home here flags with
  | none => return .error .homeNotFound
  | some directory =>
    match ← Session.start? host directory with
    | some session => return .ok session
    | none => return .error (.notDirectory directory)

/-- A wrong argument goes before everything else, help before the version, and both before the
directory to start in. -/
def start (host : Host σ) (invocation : Invocation) : StateM σ Start := do
  match Flags.parse {} invocation.arguments with
  | (_, some cause) => return .refused (.flag cause)
  | (flags, none) =>
    if flags.isSet .help then return .shows Flag.helpText
    else if flags.isSet .version then return .shows versionText
    else match ← initialSession host invocation.directory flags with
      | .ok session => return .session flags session
      | .error why => return .refused why

/-! ## Running -/

/-- What is left when the program has ended. The log and the report of a refusal go to one stream,
past the device. They are kept apart here, since the log is not put into words. -/
structure Ending (σ δ : Type) where
  code : Nat := 0
  /-- The report of a refusal, and nothing else. -/
  stderr : String := ""
  /-- What has been written to the log of the shell's own events; a runner's events are not among
  them. -/
  log : List LogEvent := []
  device : δ
  machine : σ

/-- The painter that the flags and the environment ask for. -/
def Invocation.painter (invocation : Invocation) (flags : Flags) : Painter :=
  if flags.isSet .noColor then .plain
  else .new invocation.toolkit.styling invocation.environment

/-- The filter of the log that the flags and the environment ask for. -/
def Invocation.logFilter (invocation : Invocation) (flags : Flags) : LogFilter :=
  invocation.toolkit.logging.filter invocation.environment (flags.isSet .debug)

def run (host : Host σ) (device : Device δ) (output : δ) (invocation : Invocation)
    (readings : List Reading) (machine : σ) : Ending σ δ :=
  let env := invocation.environment
  match start host invocation machine with
  | (.refused why, machine) =>
    { code := 1, stderr := "Error: " ++ why.report ++ "\n", device := output, machine }
  | (.shows text, machine) => { device := device.send [text] output, machine }
  | (.session flags session, machine) =>
    let around : Surroundings σ δ :=
      { host, device, quiet := flags.isSet .quiet, showsPrompt := invocation.toolkit.showsPrompt env }
    let shell := (Shell.new session machine output (invocation.painter flags)).run around
      (Shell.userName env) readings
    { log := shell.log.filter (invocation.logFilter flags)
      device := shell.terminal.device, machine := shell.machine }

end ThemedShell.Program
