import RunMeter.Arguments.Request
import RunMeter.Console

/-!
# The program

One run of the program from its arguments to its exit status: it reads the command line, loads and
checks the settings, carries out the request and reports the result. Whatever goes wrong after the
command line has been understood ends with status 1 and one error on the console; a command line that
is not understood ends with status 2.
-/

set_option autoImplicit false

namespace RunMeter

/-- What a run of the program leaves. -/
structure Outcome (σ : Type) where
  status : Nat
  streams : Streams := {}
  log : Log := []
  files : Files
  runnerState : σ

/-- Where a run of the program takes place. -/
structure Place where
  occasion : Occasion
  /-- The repetitions that the environment asks for. -/
  reps : Option String := none
  /-- Whether the standard output is a terminal. -/
  outputIsTerminal : Bool := false
  /-- Whether the standard error output is a terminal, which is where progress is shown. -/
  errorIsTerminal : Bool := false
deriving DecidableEq, Repr

namespace Program

variable {σ : Type}

/-- The name of the program with its version. -/
def announcement : String := "procmetrics 0.1.0"

/-- How the program is called. -/
def usage : String := "Usage: procmetrics [OPTIONS] <COMMAND>"

/-- What is wrong with a command line. -/
def complaint : UsageFault → String
  | .missingArgument => "the following required arguments were not provided"
  | .valueValidation => "invalid value for an argument"
  | .invalidValue => "a value is required or not one of the possible values"
  | .invalidSubcommand => "unrecognized subcommand"
  | .missingSubcommand => "a subcommand is required"
  | .unknownArgument => "unexpected argument found"
  | .repeatedArgument => "an argument cannot be used multiple times"
  | .tooManyValues => "unexpected value for an argument"
  | .helpAsked | .versionAsked | .nothingGiven => "Repeatable runtime metrics for external programs"

/-- The status and the streams of a command line that is not carried out. -/
def declined (fault : UsageFault) : Nat × Streams :=
  match fault with
  | .versionAsked => (0, ({} : Streams).print announcement)
  | .helpAsked => (0, (({} : Streams).print (complaint fault)).print ("\n" ++ usage))
  | .nothingGiven => (2, (({} : Streams).printError (complaint fault)).printError ("\n" ++ usage))
  | fault => (2, (({} : Streams).printError ("error: " ++ complaint fault)).printError ("\n" ++ usage))

/-- The settings that apply: those of the file under those of the environment, if they are sound. -/
def effective (settings : Settings) (reps : Option String) : Except Failure Settings :=
  match settings.override reps with
  | .error fault => .error fault.failure
  | .ok settings =>
    match settings.validate with
    | .error fault => .error fault.failure
    | .ok () => .ok settings

/-- Carries out a request. -/
def carryOut (settings : Settings) (request : Request) (runner : Runner σ) (place : Place)
    (files : Files) (runnerState : σ) : Measured σ :=
  let progress : Progress := { isTerminal := place.errorIsTerminal }
  match request with
  | .metrics request =>
    Metric.run settings request runner place.occasion files runnerState progress
  | .buildStat request =>
    let (output, log) := request.run files
    { result := .ok output, log, files, runnerState, progress }

/-- The console that flags and settings ask for. -/
def consoleOf (flags : ProgramFlags) (settings : Settings) (place : Place) : Console :=
  { json := flags.json || flags.reporter.getD settings.reporter == .json
    noColor := flags.noColor || !place.outputIsTerminal }

/-- Carries out a request under flags and reports what comes of it. -/
def runRequest (flags : ProgramFlags) (request : Request) (runner : Runner σ) (place : Place)
    (files : Files) (runnerState : σ) : Outcome σ :=
  let (settings, warning) := SettingsFile.load files flags.settingsFile
  let console := consoleOf flags settings place
  let warnings := warning.toList.map fun warning => LogLine.warning warning.message
  match effective settings place.reps with
  | .error failure =>
    { status := 1
      streams := console.error failure.messageWithCause {}
      log := warnings
      files
      runnerState }
  | .ok settings =>
    let measured := carryOut settings request runner place files runnerState
    let streams : Streams := { stderr := measured.progress.closed }
    let (status, streams) := match measured.result with
      | .ok output => (0, console.output output streams)
      | .error failure => (1, console.error failure.messageWithCause streams)
    { status
      streams
      log := (warnings ++ measured.log).filter fun line => flags.verbose || line.level == .warning
      files := measured.files
      runnerState := measured.runnerState }

/-- Runs the program with its arguments. -/
def run (args : List String) (runner : Runner σ) (place : Place) (files : Files) (runnerState : σ) :
    Outcome σ :=
  match Request.read args with
  | .error fault =>
    let (status, streams) := declined fault
    { status, streams, files, runnerState }
  | .ok (flags, request) => runRequest flags request runner place files runnerState

end Program

end RunMeter
