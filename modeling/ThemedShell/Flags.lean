/-!
# Flags

The shell is started with flags. Most are switches; one takes a value. Each has a long spelling and
most a short one. Flags may be repeated, and the last occurrence counts. `Flag.all` is the table of
`Flags.new`, in the order in which it is searched; `parse`, `isSet` and `value?` are `Flags.parse`,
`is_set` and `get_value`, and `helpText` is `Flags.help`.
-/
namespace ThemedShell

inductive Flag where
  | debug | directory | help | noColor | quiet | version
deriving DecidableEq, Repr

namespace Flag

/-- All flags, in the order of their names. -/
def all : List Flag := [.debug, .directory, .help, .noColor, .quiet, .version]

theorem mem_all (flag : Flag) : flag ∈ all := by cases flag <;> decide

def name : Flag → String
  | .debug => "debug"
  | .directory => "directory"
  | .help => "help"
  | .noColor => "no-color"
  | .quiet => "quiet"
  | .version => "version"

def ofName? (name : String) : Option Flag := all.find? fun flag => flag.name = name

def long (flag : Flag) : String := "--" ++ flag.name

/-- The short spelling; it is empty if the flag has none. -/
def short : Flag → String
  | .debug => "-d"
  | .directory => "-C"
  | .help => "-h"
  | .noColor => ""
  | .quiet => "-q"
  | .version => "-v"

/-- A flag that is followed by its value. -/
def takesValue : Flag → Bool
  | .directory => true
  | _ => false

def description : Flag → String
  | .debug => "Enable debug logging"
  | .directory => "Start in the given directory"
  | .help => "Print this help message"
  | .noColor => "Render output without colors"
  | .quiet => "Skip the welcome banner"
  | .version => "Show version information"

/-- The argument is a spelling of the flag. An empty argument is none, whatever flags have no short
spelling. -/
def spelledBy (flag : Flag) (argument : String) : Bool :=
  argument = flag.long || (!flag.short.isEmpty && argument = flag.short)

def ofSpelling? (argument : String) : Option Flag := all.find? fun flag => flag.spelledBy argument

/-! ## Help -/

/-- The text, followed by blanks up to the given width. -/
def padded (width : Nat) (s : String) : String := .ofList (s.toList.rightpad width ' ')

def helpLine (flag : Flag) : String :=
  let long := if flag.takesValue then flag.long ++ " <value>" else flag.long
  let short := if flag.short.isEmpty then "    " else flag.short ++ ","
  "  " ++ short ++ " " ++ padded 20 long ++ " " ++ flag.description ++ "\n"

def helpText : String :=
  "Usage: tinta [OPTIONS]\n\nOptions:\n" ++ String.join (all.map helpLine)

end Flag

/-! ## Values -/

inductive FlagError where
  | missingValue (argument : String)
  | unknown (argument : String)
deriving DecidableEq, Repr

def FlagError.message : FlagError → String
  | .missingValue argument => "Flag " ++ argument ++ " requires a value"
  | .unknown argument => "Unknown flag: " ++ argument

/-- The value of each flag that has been set. -/
structure Flags where
  value? : Flag → Option String := fun _ => none

namespace Flags

def isSet (flags : Flags) (flag : Flag) : Bool := (flags.value? flag).isSome

def set (flags : Flags) (flag : Flag) (value : String) : Flags :=
  ⟨fun other => if other = flag then some value else flags.value? other⟩

/-- What a switch is set to. -/
def switchedOn : String := "true"

/-- Reads arguments from left to right. After an error the flags read before it stay set. -/
def parse (flags : Flags) : List String → Flags × Option FlagError
  | [] => (flags, none)
  | argument :: rest =>
    match Flag.ofSpelling? argument with
    | none => (flags, some (.unknown argument))
    | some flag =>
      if flag.takesValue then
        match rest with
        | [] => (flags, some (.missingValue argument))
        | value :: rest => parse (flags.set flag value) rest
      else parse (flags.set flag switchedOn) rest

@[simp] theorem value?_set_self (flags : Flags) (flag : Flag) (value : String) :
    (flags.set flag value).value? flag = some value := by
  simp [set]

theorem value?_set_of_ne (flags : Flags) {flag other : Flag} (h : other ≠ flag) (value : String) :
    (flags.set flag value).value? other = flags.value? other := by
  simp [set, h]

end Flags

end ThemedShell
