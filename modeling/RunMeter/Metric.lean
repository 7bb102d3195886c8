import RunMeter.Report.Document
import RunMeter.Sampling
import RunMeter.Settings

/-!
# Measuring commands

`Metric.run` carries out one measurement: it fills in from the settings what the flags leave open,
samples the command or searches for its least bound, and makes the report. Nothing is run if the
request makes no sense: no repetitions, no command, or a bound that cannot reach the program.
-/

set_option autoImplicit false

namespace RunMeter

/-- The flags that all sampled metrics share. -/
structure SampleFlags where
  reps : Option Nat := none
  timeout : Option Duration := none
deriving DecidableEq, Repr

/-- A measurement that is asked for. `words` are the program and its arguments. -/
inductive MetricCommand
  | alloc (flags : SampleFlags) (traceFile : Option String) (words : List String)
  | time (flags : SampleFlags) (traceFile : Option String) (words : List String)
  | maxrss (flags : SampleFlags) (words : List String)
  | instructions (flags : SampleFlags) (words : List String)
  | minheap (confirmations : Option Nat) (timeout : Option Duration) (boundArg : Option String)
      (boundVariable : Option String) (words : List String)
deriving DecidableEq, Repr

/-- What a measurement takes from where and when it is made. -/
structure Occasion where
  stamp : RunStamp
  /-- The format of the `time` tool of this host, if it is known. -/
  hostPlatform : Option RssPlatform := none
deriving DecidableEq, Repr

/-- What a measurement leaves. -/
structure Measured (σ : Type) where
  result : Except Failure Output
  log : Log := []
  files : Files
  runnerState : σ
  progress : Progress

namespace Metric

variable {σ : Type}

/-- A failure of the request. -/
def refusal (detail : String) : Failure := { kind := .invalidArgument, detail }

/-- The command that words stand for. -/
def commandOf : List String → Except Failure Command
  | [] => .error (refusal "missing command to profile")
  | program :: args => .ok { program, args }

/-- The platform whose format is read. -/
def resolvePlatform (configured host : Option RssPlatform) : Except Failure RssPlatform :=
  match configured <|> host with
  | some platform => .ok platform
  | none =>
    .error
      { kind := .unsupportedPlatform
        detail := "can't measure RSS on this platform (set rss_platform in procmetrics.toml)" }

/-- The note on how many samples were of use. -/
def tally (probe : Probe) (set : SeriesSet) : LogLine :=
  .info (probe.name ++ ": " ++ toString set.usable ++ " usable, " ++ toString set.excluded ++
    " excluded")

/-- A measurement that ended before anything was run. -/
def refused (failure : Failure) (files : Files) (runnerState : σ) (progress : Progress) :
    Measured σ :=
  { result := .error failure, files, runnerState, progress }

/-- Samples a command and reports the series. -/
def sample (runner : Runner σ) (occasion : Occasion) (plan : SamplingPlan) (files : Files)
    (runnerState : σ) (progress : Progress) : Measured σ :=
  let (result, session) := Sampling.run runner plan { files, runnerState, progress }
  let leave (result : Except Failure Output) (log : Log) : Measured σ :=
    { result
      log := session.log ++ log
      files := session.files
      runnerState := session.runnerState
      progress := session.progress }
  match result with
  | .error failure => leave (.error failure) []
  | .ok () =>
    let report := MetricsReport.ofSeries plan.probe.name plan.probe.unit session.series
      plan.command.display occasion.stamp
    leave (.ok report.output) [tally plan.probe session.series]

/-- Samples the command that words stand for. -/
def sampleWords (runner : Runner σ) (occasion : Occasion) (probe : Probe) (reps : Nat)
    (timeout : Option Duration) (traceFile : Option String) (words : List String) (files : Files)
    (runnerState : σ) (progress : Progress) : Measured σ :=
  if reps = 0 then
    refused (refusal "--reps must be at least 1") files runnerState progress
  else
    match commandOf words with
    | .error failure => refused failure files runnerState progress
    | .ok command =>
      sample runner occasion { probe, command, reps, timeout, traceFile } files runnerState progress

/-- The failure that the bound cannot reach the program. -/
def missingPlaceholder (template : String) : Failure :=
  refusal ("bound argument " ++ Text.quote template ++ " has no \x7bbound\x7d placeholder")

/-- Searches for the least bound of a command and reports it. -/
def search (runner : Runner σ) (occasion : Occasion) (config : SearchConfig)
    (bounded : BoundedCommand) (timeout : Duration) (unit : String) (files : Files)
    (runnerState : σ) (progress : Progress) : Measured σ :=
  if bounded.carriesBound then
    let (result, log, (files, runnerState), progress) :=
      Search.searchMinBound runner bounded config (some timeout) unit (files, runnerState) progress
    let result := result.map fun outcome =>
      ({ outcome
         unit
         command := bounded.command.display
         stamp := occasion.stamp } : BoundReport).output
    { result, log, files, runnerState, progress }
  else refused (missingPlaceholder bounded.boundArg) files runnerState progress

/-- Carries out a measurement. -/
def run (settings : Settings) (request : MetricCommand) (runner : Runner σ) (occasion : Occasion)
    (files : Files) (runnerState : σ) (progress : Progress) : Measured σ :=
  match request with
  | .alloc flags traceFile words =>
    sampleWords runner occasion .allocation (flags.reps.getD settings.reps) flags.timeout traceFile
      words files runnerState progress
  | .time flags traceFile words =>
    sampleWords runner occasion .phaseTiming (flags.reps.getD settings.reps) flags.timeout traceFile
      words files runnerState progress
  | .maxrss flags words =>
    match resolvePlatform settings.rssPlatform occasion.hostPlatform with
    | .error failure => refused failure files runnerState progress
    | .ok platform =>
      sampleWords runner occasion (.maxRss platform) (flags.reps.getD settings.reps) flags.timeout
        none words files runnerState progress
  | .instructions flags words =>
    sampleWords runner occasion .instructions (flags.reps.getD 1) flags.timeout none words files
      runnerState progress
  | .minheap confirmations timeout boundArg boundVariable words =>
    match commandOf words with
    | .error failure => refused failure files runnerState progress
    | .ok command =>
      let bounded : BoundedCommand :=
        { command
          boundArg := boundArg.getD settings.bound.boundArg
          boundVariable := boundVariable <|> settings.bound.boundVariable }
      let config : SearchConfig :=
        { initialBound := settings.bound.initialBound
          coarseStep := settings.bound.coarseStep
          confirmations := confirmations.getD settings.reps
          maxBound := settings.bound.maxBound }
      search runner occasion config bounded (timeout.getD settings.bound.timeout)
        settings.bound.unit files runnerState progress

end Metric

end RunMeter
