import FramedLink.Argument
import FramedLink.CommandLine.Scan
import FramedLink.Event
import FramedLink.Report

set_option autoImplicit false
set_option relaxedAutoImplicit false

/-!
# The command line

The program has the subcommands `ping`, `reset`, `send` and `version`. The three that talk to a
device take its address, which may also come from the environment. The options that choose the
formats of reports and logs are taken before the subcommand and after it; when an option is
given in both places, the one after it counts.

## Main definitions

* `FramedLink.Command` — a subcommand with its arguments; `FramedLink.Target` says how to reach
  the device.
* `FramedLink.Invocation` — a whole command line.
* `FramedLink.Invocation.parse` — read a command line.
-/

namespace FramedLink

/-- How to reach the device. -/
structure Target where
  /-- The address: host and link, or the path of a local socket. -/
  addr : String
  /-- Is the address the path of a local socket? -/
  isLocal : Bool
  /-- The timeout, as it was written. -/
  timeout : String
  deriving DecidableEq, Repr

/-- A subcommand with its arguments. -/
inductive Command where
  /-- Does the device answer? -/
  | ping (target : Target)
  /-- Make the device restart, if `check` is set only when it answers. -/
  | reset (target : Target) (check : Bool)
  /-- Send a frame with a payload, as it was written, and print the reply if `wait` is set. -/
  | send (target : Target) (type : UInt8) (data : Option String) (wait : Bool)
  /-- Print the version of the program. -/
  | version (extended : Bool)
  deriving DecidableEq, Repr

/-- The layouts of log lines. -/
inductive LogFormat where
  | text
  | json
  deriving DecidableEq, Repr

/-- A whole command line. -/
structure Invocation where
  /-- The subcommand. -/
  command : Command
  /-- The format of the report, if one was chosen. -/
  format : Option Format
  /-- The layout of log lines. -/
  logFormat : LogFormat
  /-- The least important events that are logged. -/
  logLevel : Level
  deriving DecidableEq, Repr

namespace Invocation

open CommandLine

/-! ## Names of values -/

/-- The names of the formats of reports. -/
def formats : List (String × Format) :=
  [("json", .json), ("table", .table), ("pretty", .pretty), ("raw", .raw)]

/-- The names of the layouts of log lines. -/
def logFormats : List (String × LogFormat) := [("text", .text), ("json", .json)]

/-- The names of the levels. -/
def logLevels : List (String × Level) :=
  [("error", .error), ("warn", .warn), ("info", .info), ("debug", .debug), ("trace", .trace)]

/-! ## Options -/

/-- The value has to be one of the names of a list. -/
def oneOf {α : Type} (names : List (String × α)) (value : String) : Option Mistake :=
  if (names.lookup value).isSome then none else some .invalidValue

/-- The value has to be a byte. -/
def aByte (value : String) : Option Mistake :=
  match Argument.byte value with
  | .ok _ => none
  | .error reason => some (.refusedValue reason)

/-- Every value will do. -/
def anything (_ : String) : Option Mistake := none

/-- The options taken before and after a subcommand. -/
def commonOptions : List Opt :=
  [⟨"format", none, .value (oneOf formats)⟩, ⟨"log-format", none, .value (oneOf logFormats)⟩,
    ⟨"log-level", none, .value (oneOf logLevels)⟩, ⟨"help", some 'h', .request .helpRequested⟩]

/-- The options that say how to reach the device. -/
def targetOptions : List Opt := [⟨"unix", none, .switch⟩, ⟨"timeout", none, .value anything⟩]

/-- The names of the subcommands. -/
def subcommands : List String := ["ping", "reset", "send", "version"]

/-- What stands before a subcommand. -/
def topShape : Shape where
  options := commonOptions ++ [⟨"version", some 'V', .request .versionRequested⟩]
  subcommands := subcommands ++ ["help"]

/-- What a subcommand takes. -/
def shapeOf (name : String) : Shape :=
  match name with
  | "ping" => { options := targetOptions ++ commonOptions, positionals := 1 }
  | "reset" =>
    { options := [⟨"check", none, .switch⟩] ++ targetOptions ++ commonOptions, positionals := 1 }
  | "send" =>
    { options :=
        [⟨"type", some 't', .value aByte⟩, ⟨"data", none, .value anything⟩,
          ⟨"wait", none, .switch⟩] ++ targetOptions ++ commonOptions
      positionals := 1 }
  | _ => { options := [⟨"extended", none, .switch⟩] ++ commonOptions }

/-! ## Reading -/

/-- How to reach the device: the address comes from the line, or else from the environment. -/
def readTarget (envAddr : Option String) (r : Reading) : Except Mistake Target :=
  match (r.words.head?).or envAddr with
  | none => .error .missingArgument
  | some addr =>
    .ok { addr, isLocal := r.isOn "unix", timeout := (r.value? "timeout").getD "1s" }

/-- The type of the frame to send. -/
def readType (r : Reading) : Except Mistake UInt8 :=
  match (r.value? "type").map Argument.byte with
  | some (.ok b) => .ok b
  | _ => .error .missingArgument

/-- A subcommand from what has been read for it. -/
def readCommand (envAddr : Option String) (name : String) (r : Reading) : Except Mistake Command :=
  match name with
  | "ping" => do return .ping (← readTarget envAddr r)
  | "reset" => do return .reset (← readTarget envAddr r) (r.isOn "check")
  | "send" => do
    return .send (← readTarget envAddr r) (← readType r) (r.value? "data") (r.isOn "wait")
  | _ => .ok (.version (r.isOn "extended"))

/-- Help on a subcommand, or on the program. -/
def readHelp (topics : List String) : Mistake :=
  match topics with
  | [] => .helpRequested
  | [topic] => if topShape.subcommands.contains topic then .helpRequested else .invalidSubcommand
  | _ => .invalidSubcommand

/-- The value of an option after the subcommand or else before it, by its name in a list. -/
def choose? {α : Type} (names : List (String × α)) (long : String) (inner outer : Reading) :
    Option α :=
  ((inner.value? long).or (outer.value? long)).bind fun value => names.lookup value

/-- Read a command line: the words after the name of the program, and the address that the
environment gives. -/
def parse (args : List String) (envAddr : Option String) : Except Mistake Invocation := do
  let (outer, handover) ← scan topShape false {} args
  match handover with
  | none =>
    let outer ← outer.settle
    if outer.given.isEmpty then throw .nothingGiven else throw .missingSubcommand
  | some ⟨"help", topics⟩ => throw (readHelp topics)
  | some ⟨name, rest⟩ =>
    let (inner, _) ← scan (shapeOf name) false {} rest
    let inner ← inner.settle
    let command ← readCommand envAddr name inner
    let outer ← outer.settle
    return {
      command
      format := choose? formats "format" inner outer
      logFormat := (choose? logFormats "log-format" inner outer).getD .text
      logLevel := (choose? logLevels "log-level" inner outer).getD .info }

end Invocation

end FramedLink
