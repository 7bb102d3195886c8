import RunMeter.Log
import RunMeter.Probe
import RunMeter.Progress
import RunMeter.Runner

/-!
# Sampling

A command is run a fixed number of times and the values of every usable sample are recorded. Samples
that fail or cannot be read are excluded with a warning. With a trace file, the file is removed
before each run, so that a sample is only ever read from what its own run wrote.

`Sampling.run` keeps the whole session whatever happens: when a stale trace cannot be removed, the
series hold exactly what the runs before that have given.
-/

set_option autoImplicit false

namespace RunMeter

/-- What is sampled, and how often. -/
structure SamplingPlan where
  probe : Probe
  command : Command
  reps : Nat
  timeout : Option Duration := none
  /-- The file that the program writes its trace to, as it was named. -/
  traceFile : Option String := none
deriving DecidableEq, Repr

/-- A sampling run in progress. `σ` is the state of the runner. -/
structure Session (σ : Type) where
  files : Files
  runnerState : σ
  series : SeriesSet := .empty
  progress : Progress
  log : Log := []

/-- What becomes of one sample. -/
inductive Verdict
  | usable (values : List (MetricKey × Float))
  | excluded (reason : String)
  | fatal (failure : Failure)

namespace Sampling

variable {σ : Type}

/-- The files without a trace from before. That there is none is no failure. -/
def clearTrace (plan : SamplingPlan) (files : Files) : Except FileFault Files :=
  match plan.traceFile with
  | none => .ok files
  | some name =>
    match files.remove name with
    | .ok files => .ok files
    | .error .notFound => .ok files
    | .error fault => .error fault

/-- The text that the values of a sample are read from. -/
def traceText (plan : SamplingPlan) (sample : Sample) (files : Files) : Except Failure String :=
  match plan.traceFile with
  | none => .ok sample.combined
  | some name =>
    match files.readText name with
    | .ok text => .ok text
    | .error fault =>
      .error
        { kind := .missingPattern
          detail := "trace file " ++ name ++ " unreadable: " ++ fault.message }

/-- Judges one sample by its outcome and by the files that its run has left. -/
def judge (plan : SamplingPlan) (sample : Sample) (files : Files) : Verdict :=
  if sample.succeeded then
    match traceText plan sample files with
    | .error failure => .excluded failure.message
    | .ok text =>
      match plan.probe.extract sample text with
      | .ok values => .usable values
      | .error failure =>
        if failure.isSampleLocal then .excluded failure.message else .fatal failure
  else .excluded sample.failureReason

/-- The warning that a sample is excluded. -/
def exclusionWarning (index : Nat) (reason : String) : LogLine :=
  .warning ("sample " ++ toString index ++ " excluded: " ++ reason)

/-- The warning that a sample has other keys than the first one. -/
def inconsistencyWarning (plan : SamplingPlan) (index : Nat) : LogLine :=
  .warning ("sample " ++ toString index ++ " reported a different set of " ++ plan.probe.name ++
    " keys than the first sample")

/-- Enters a verdict into the series and the log. -/
def settle (plan : SamplingPlan) (index : Nat) (session : Session σ) :
    Verdict → Except Failure Unit × Session σ
  | .usable values =>
    let (consistent, series) := session.series.record values
    let warnings := if consistent then [] else [inconsistencyWarning plan index]
    (.ok (), { session with series, log := session.log ++ warnings })
  | .excluded reason =>
    (.ok (),
      { session with
        series := session.series.exclude
        log := session.log ++ [exclusionWarning index reason] })
  | .fatal failure => (.error failure, session)

/-- Takes the sample with the given index. -/
def takeSample (runner : Runner σ) (plan : SamplingPlan) (index : Nat) (session : Session σ) :
    Except Failure Unit × Session σ :=
  match clearTrace plan session.files with
  | .error fault => (.error { kind := .io, detail := fault.message }, session)
  | .ok files =>
    let (sample, files, runnerState) :=
      runner.run (plan.probe.prepare plan.command) plan.timeout files session.runnerState
    let progress := session.progress.step "." "sampling"
    settle plan index { session with files, runnerState, progress } (judge plan sample files)

/-- Takes `remaining` samples, the first of which has the given index. -/
def takeSamples (runner : Runner σ) (plan : SamplingPlan) :
    (remaining index : Nat) → Session σ → Except Failure Unit × Session σ
  | 0, _, session => (.ok (), session)
  | remaining + 1, index, session =>
    match takeSample runner plan index session with
    | (.ok (), session) => takeSamples runner plan remaining (index + 1) session
    | (.error failure, session) => (.error failure, session)

/-- The failure that no sample was usable. -/
def nothingUsable (plan : SamplingPlan) : Failure :=
  { kind := .noUsableSamples
    detail := "all " ++ toString plan.reps ++ " samples of \x60" ++
      (plan.probe.prepare plan.command).display ++ "\x60 failed or produced unparsable output" }

/-- The failure that a trace file was given to a probe that reads its tool's report. -/
def refusedTraceFile (plan : SamplingPlan) : Failure :=
  { kind := .invalidArgument
    detail := plan.probe.name ++ " reads its own tool output and does not accept a trace file" }

/-- Takes all samples of a plan. It fails if the series hold no usable sample at the end. -/
def run (runner : Runner σ) (plan : SamplingPlan) (session : Session σ) :
    Except Failure Unit × Session σ :=
  if plan.traceFile.isSome && !plan.probe.readsTraceFile then
    (.error (refusedTraceFile plan), session)
  else
    match takeSamples runner plan plan.reps 0 session with
    | (.error failure, session) => (.error failure, session)
    | (.ok (), session) =>
      let session := { session with progress := session.progress.finish }
      if session.series.usable = 0 then (.error (nothingUsable plan), session)
      else (.ok (), session)

end Sampling

end RunMeter
