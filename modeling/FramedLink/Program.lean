import FramedLink.Execute
import FramedLink.Log

set_option autoImplicit false
set_option relaxedAutoImplicit false

/-!
# The program as a whole

The program reads its command line, executes the command and ends with a number. Reports go to
one stream, log lines and the message of a failure to another.

## Main definitions

* `FramedLink.Transcript` — all that the program leaves behind.
* `FramedLink.Program.run` — a run of the program.
-/

namespace FramedLink

/-- All that a run of the program leaves behind. -/
structure Transcript (σ : Type) where
  /-- The number that is reported. -/
  exitCode : Nat
  /-- What was printed. -/
  printed : List UInt8
  /-- The lines of the log, and the message of a failure. -/
  logged : List String
  /-- The link to the device afterwards, if there was a connection. -/
  link : Option σ

namespace CommandLine.Mistake

/-- The number that is reported when the command line is not carried out. -/
def exitCode : Mistake → Nat
  | helpRequested | versionRequested => 0
  | _ => 2

/-- What is wrong with the command line, in words. -/
def describe : Mistake → String
  | invalidValue => "a value is missing or not among those allowed"
  | refusedValue reason => reason
  | unknownArgument => "unknown argument"
  | repeated => "an option was given twice"
  | excessValue => "a value was given to an option that takes none"
  | missingArgument => "an argument is missing"
  | invalidSubcommand => "unknown subcommand"
  | missingSubcommand | nothingGiven => "a subcommand is missing"
  | helpRequested | versionRequested => ""

end CommandLine.Mistake

namespace Program

/-- The lines that tell how to use the program. -/
def usage (build : Build) : List String :=
  ["Usage: " ++ build.name ++ " [OPTIONS] <COMMAND>",
    "",
    "Commands:",
    "  ping <ADDR> [--unix] [--timeout <TIMEOUT>]",
    "  reset <ADDR> [--unix] [--timeout <TIMEOUT>] [--check]",
    "  send <ADDR> --type <TYPE> [--data <HEX>] [--wait] [--unix] [--timeout <TIMEOUT>]",
    "  version [--extended]",
    "",
    "Options:",
    "  --format <json|table|pretty|raw>",
    "  --log-format <text|json>",
    "  --log-level <error|warn|info|debug|trace>",
    "  --help, --version"]

/-- The end of a run whose command line is not carried out. -/
def refuse {σ : Type} (build : Build) (mistake : CommandLine.Mistake) : Transcript σ :=
  let (printed, logged) :=
    match mistake with
    | .helpRequested => (lineBytes (usage build), [])
    | .versionRequested => (lineBytes [build.line], [])
    | _ => ([], ("error: " ++ mistake.describe) :: usage build)
  { exitCode := mistake.exitCode, printed, logged, link := none }

/-- Run the program with its arguments and the address that the environment gives. -/
def run {σ : Type} [Link σ] (network : Network σ) (build : Build) (args : List String)
    (envAddr : Option String) : Transcript σ :=
  match Invocation.parse args envAddr with
  | .error mistake => refuse build mistake
  | .ok i =>
    let done := i.command.execute network build (i.format.getD .default)
    let failure :=
      match done.result with
      | .ok _ => []
      | .error failure => ["error: " ++ failure.message]
    { exitCode := done.exitCode
      printed := done.printed
      logged := logLines i.logFormat i.logLevel done.events ++ failure
      link := done.link }

end Program

end FramedLink
