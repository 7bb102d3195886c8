import RunMeter.Metric
import RunMeter.Proofs.Bound.Course
import RunMeter.Proofs.Runs.Transcript

/-!
# The calls of a measurement

A measurement calls its runner for the samples of a plan or for the trials of a search. Either way a
runner that keeps a record changes nothing else (`Metric.run_recording`), so the record of one more
run of the same measurement says which calls it makes: `Metric.transcript`. That is said of
measurements that return, as all do but a search with the largest word as its largest bound.
-/

set_option autoImplicit false

namespace RunMeter

variable {σ : Type}

/-- What a measurement leaves, without the record of its runner. -/
def Measured.withoutRecord (measured : Measured (σ × List Invocation)) : Measured σ :=
  { result := measured.result
    log := measured.log
    files := measured.files
    runnerState := measured.runnerState.1
    progress := measured.progress }

/-- A trial by a runner that keeps a record is the trial without, but for the record. -/
theorem Search.commandTrial_recording (runner : Runner σ) (bounded : BoundedCommand)
    (timeout : Option Duration) (bound : UInt64) (state : Files × σ × List Invocation) :
    commandTrial runner bounded timeout bound (state.1, state.2.1) =
      ((commandTrial runner.recording bounded timeout bound state).1,
        (commandTrial runner.recording bounded timeout bound state).2.1,
        (commandTrial runner.recording bounded timeout bound state).2.2.1) := rfl

namespace Metric

variable (runner : Runner σ) (occasion : Occasion)

/-- The calls of the runner that a measurement makes, in their order. -/
def transcript (settings : Settings) (request : MetricCommand) (files : Files) (runnerState : σ)
    (progress : Progress) : List Invocation :=
  (run settings request runner.recording occasion files (runnerState, []) progress).runnerState.2

theorem sample_recording (plan : SamplingPlan) (files : Files) (s : σ) (record : List Invocation)
    (progress : Progress) :
    sample runner occasion plan files s progress =
      (sample runner.recording occasion plan files (s, record) progress).withoutRecord := by
  have hrun : Sampling.run runner plan { files, runnerState := s, progress } = _ :=
    Sampling.run_recording runner plan { files, runnerState := (s, record), progress }
  unfold sample
  rw [hrun]
  rcases Sampling.run runner.recording plan { files, runnerState := (s, record), progress } with
    ⟨_ | _, session⟩
  · rfl
  · rfl

theorem sampleWords_recording (probe : Probe) (reps : Nat) (timeout : Option Duration)
    (traceFile : Option String) (words : List String) (files : Files) (s : σ)
    (record : List Invocation) (progress : Progress) :
    sampleWords runner occasion probe reps timeout traceFile words files s progress =
      (sampleWords runner.recording occasion probe reps timeout traceFile words files (s, record)
        progress).withoutRecord := by
  unfold sampleWords
  split
  · rfl
  · split
    · rfl
    · exact sample_recording runner occasion _ files s record progress

theorem search_recording {config : SearchConfig} (hmax : config.maxBound.toNat < maxWord)
    (bounded : BoundedCommand) (timeout : Duration) (unit : String) (files : Files) (s : σ)
    (record : List Invocation) (progress : Progress) :
    search runner occasion config bounded timeout unit files s progress =
      (search runner.recording occasion config bounded timeout unit files (s, record)
        progress).withoutRecord := by
  have hsearch : Search.searchMinBound runner bounded config (some timeout) unit (files, s) progress
      = _ :=
    Search.findMinBound_map (Search.commandTrial_recording runner bounded (some timeout))
      (Search.ends_of_lt hmax unit _ (files, s, record) progress)
  unfold search
  rw [hsearch]
  split
  · rfl
  · rfl

/-- A measurement whose runner keeps a record leaves what it does without. -/
theorem run_recording {settings : Settings} (hmax : settings.bound.maxBound.toNat < maxWord)
    (request : MetricCommand) (files : Files) (s : σ) (record : List Invocation)
    (progress : Progress) :
    run settings request runner occasion files s progress =
      (run settings request runner.recording occasion files (s, record) progress).withoutRecord := by
  cases request with
  | alloc flags traceFile words => exact sampleWords_recording runner occasion _ _ _ _ _ _ _ _ _
  | time flags traceFile words => exact sampleWords_recording runner occasion _ _ _ _ _ _ _ _ _
  | maxrss flags words =>
    unfold run
    dsimp only
    split
    · rfl
    · exact sampleWords_recording runner occasion _ _ _ _ _ _ _ _ _
  | instructions flags words => exact sampleWords_recording runner occasion _ _ _ _ _ _ _ _ _
  | minheap confirmations timeout boundArg boundVariable words =>
    unfold run
    dsimp only
    split
    · rfl
    · exact search_recording runner occasion hmax _ _ _ _ _ _ _

end Metric

end RunMeter
