import RunMeter.Arguments.Reader
import RunMeter.BuildStat
import RunMeter.Metric

/-!
# Requests

The command line of the program: flags of the whole program, which may stand at any level, and
below them the measurements and the statistics of a build with their own flags. What has been read
becomes a `MetricCommand` or a `BuildStatCommand`.
-/

set_option autoImplicit false

namespace RunMeter

/-- What is asked of the program. -/
inductive Request
  | metrics (request : MetricCommand)
  | buildStat (request : BuildStatCommand)
deriving DecidableEq, Repr

/-- The flags of the whole program. -/
structure ProgramFlags where
  settingsFile : String := "procmetrics.toml"
  json : Bool := false
  reporter : Option Reporter := none
  noColor : Bool := false
  /-- Whether notes are shown beside warnings. -/
  verbose : Bool := false
deriving DecidableEq, Repr

namespace Request

/-- The flag that asks for help, known at every level. -/
def helpFlag : Flag := { name := "help", short := some 'h', effect := .help }

/-- The flag that asks for the version. -/
def versionFlag : Flag := { name := "version", short := some 'V', effect := .version }

/-- The flags that may stand at any level. -/
def globalFlags : List Flag :=
  [{ name := "config", effect := .value .path false },
    { name := "json", effect := .turnOn },
    { name := "reporter", effect := .value .reporter false },
    { name := "no-color", effect := .turnOn },
    { name := "verbose", short := some 'v', effect := .turnOn }]

/-- The flags of a sampled metric. -/
def sampleFlags : List Flag :=
  [{ name := "reps", effect := .value .count false },
    { name := "timeout", effect := .value .duration false }]

/-- The flag that names a trace file. -/
def traceFlag : Flag := { name := "trace-file", effect := .value .path false }

/-- The flags of the bound search. -/
def boundFlags : List Flag :=
  [{ name := "confirmations", effect := .value .count false },
    { name := "timeout", effect := .value .duration false },
    { name := "bound-arg", effect := .value .text true },
    { name := "bound-env", effect := .value .text false }]

/-- A level that takes a command. -/
def commandLevel (global own : List Flag) : Grammar :=
  .level (own ++ global ++ [helpFlag]) .command []

/-- The measurements. -/
def metricsGrammar (global : List Flag) : Grammar :=
  .level (global ++ [helpFlag]) .nothing
    [("alloc", commandLevel global (sampleFlags ++ [traceFlag])),
      ("minheap", commandLevel global boundFlags),
      ("maxrss", commandLevel global sampleFlags),
      ("instructions", commandLevel global sampleFlags),
      ("time", commandLevel global (sampleFlags ++ [traceFlag]))]

/-- A level that takes a path. -/
def pathLevel (global : List Flag) : Grammar := .level (global ++ [helpFlag]) .path []

/-- The statistics of a build. -/
def buildStatGrammar (global : List Flag) : Grammar :=
  .level (global ++ [helpFlag]) .nothing
    [("binary-size", pathLevel global),
      ("build-time", pathLevel global),
      ("runtime-compilable-methods", pathLevel global)]

/-- The whole program. -/
def programGrammar : Grammar :=
  .level (globalFlags ++ [helpFlag, versionFlag]) .nothing
    [("metrics", metricsGrammar globalFlags), ("build-stats", buildStatGrammar globalFlags)]

/-- The levels that a command line can have. -/
def maxLevels : Nat := 3

/-- The value of a flag at one level. -/
def flagValue? (reading : LevelReading) (name : String) : Option FlagValue :=
  (reading.given.lookup name).join

/-- The count of a flag. -/
def count? (reading : LevelReading) (name : String) : Option Nat :=
  match flagValue? reading name with
  | some (.count n) => some n
  | _ => none

/-- The duration of a flag. -/
def duration? (reading : LevelReading) (name : String) : Option Duration :=
  match flagValue? reading name with
  | some (.duration d) => some d
  | _ => none

/-- The text of a flag. -/
def text? (reading : LevelReading) (name : String) : Option String :=
  match flagValue? reading name with
  | some (.text s) => some s
  | _ => none

/-- The flags of a sampled metric that were given. -/
def sampleFlagsOf (reading : LevelReading) : SampleFlags :=
  { reps := count? reading "reps", timeout := duration? reading "timeout" }

/-- The measurement with a name. -/
def metricOf? (name : String) (reading : LevelReading) : Option MetricCommand :=
  let flags := sampleFlagsOf reading
  let words := reading.words
  match name with
  | "alloc" => some (.alloc flags (text? reading "trace-file") words)
  | "time" => some (.time flags (text? reading "trace-file") words)
  | "maxrss" => some (.maxrss flags words)
  | "instructions" => some (.instructions flags words)
  | "minheap" =>
    some
      (.minheap (count? reading "confirmations") (duration? reading "timeout")
        (text? reading "bound-arg") (text? reading "bound-env") words)
  | _ => none

/-- The statistic with a name. -/
def buildStatOf? (name : String) (reading : LevelReading) : Option BuildStatCommand :=
  let path := reading.words.headD ""
  match name with
  | "binary-size" => some (.binarySize path)
  | "build-time" => some (.buildTime path)
  | "runtime-compilable-methods" => some (.runtimeMethods path)
  | _ => none

/-- The name of the level below that was chosen at a level. -/
def chosen (reading : LevelReading) : String := (reading.below.map (·.1)).getD ""

/-- Reads a measurement from its arguments alone. -/
def readMetric (args : List String) : Except UsageFault MetricCommand := do
  match ← (metricsGrammar []).read maxLevels args with
  | [top, inner] =>
    match metricOf? (chosen top) inner with
    | some request => .ok request
    | none => .error .invalidSubcommand
  | _ => .error .missingSubcommand

/-- Reads a statistic from its arguments alone. -/
def readBuildStat (args : List String) : Except UsageFault BuildStatCommand := do
  match ← (buildStatGrammar []).read maxLevels args with
  | [top, inner] =>
    match buildStatOf? (chosen top) inner with
    | some request => .ok request
    | none => .error .invalidSubcommand
  | _ => .error .missingSubcommand

/-- Whether a flag was turned on at some level. -/
def isOn (readings : List LevelReading) (name : String) : Bool :=
  readings.any fun reading => reading.has name

/-- The flags of the whole program. Of two values the one at the inner level counts. -/
def programFlagsOf (readings : List LevelReading) : ProgramFlags :=
  let innermost := readings.reverse
  { settingsFile := (innermost.findSome? (text? · "config")).getD ({} : ProgramFlags).settingsFile
    json := isOn readings "json"
    reporter := innermost.findSome? fun reading =>
      match flagValue? reading "reporter" with
      | some (.reporter choice) => some choice
      | _ => none
    noColor := isOn readings "no-color"
    verbose := isOn readings "verbose" }

/-- Reads the whole command line. -/
def read (args : List String) : Except UsageFault (ProgramFlags × Request) := do
  let readings ← programGrammar.read maxLevels args
  match readings with
  | [top, middle, inner] =>
    let request := match chosen top with
      | "metrics" => (metricOf? (chosen middle) inner).map .metrics
      | _ => (buildStatOf? (chosen middle) inner).map .buildStat
    match request with
    | some request => .ok (programFlagsOf readings, request)
    | none => .error .invalidSubcommand
  | _ => .error .missingSubcommand

end Request

end RunMeter
