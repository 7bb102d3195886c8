import RunMeter.Proofs.Series.Growth
import RunMeter.Sampling

/-!
# What a sampling run asks of its runner

A runner may do anything, so what a sampling run does with it is told by the calls it makes: the
command and the time limit of each, the files that it finds, the sample that it gives and the files
that it leaves (`Invocation`). Whatever a call has left, its sample is entered into the series by one
call on them (`Invocation.entry`), and into the log by at most one note (`Invocation.notes`).
`Sampling.takeSample_of_cleared` is all that one sample can do once the trace from before is gone.

`Runner.recording` keeps a record of the calls, which changes nothing else
(`Sampling.run_recording`); `Sampling.transcript` is the record of a whole run. `Sampling.Accounts`
says what a row of calls makes of a session. Every row of samples has such an account
(`Sampling.takeSamples_accounts`), and stops short of its last sample only where a trace file cannot
be removed.
-/

set_option autoImplicit false

namespace RunMeter

variable {σ : Type}

/-- One call of a runner: what it was given, and what it gave and left. -/
structure Invocation where
  command : Command
  timeout : Option Duration
  /-- The files when the command was started. -/
  found : Files
  sample : Sample
  /-- The files when the command had ended. -/
  left : Files

/-- A warning about one sample, by its index. -/
inductive SampleNote
  | excluded (index : Nat) (reason : String)
  | inconsistent (index : Nat)
deriving DecidableEq, Repr

namespace SampleNote

/-- The sample that a note is about. -/
def index : SampleNote → Nat
  | .excluded index _ => index
  | .inconsistent index => index

/-- Whether a note says that a sample is excluded. -/
def isExclusion : SampleNote → Bool
  | .excluded _ _ => true
  | .inconsistent _ => false

/-- The line of the log that a note becomes. -/
def line (plan : SamplingPlan) : SampleNote → LogLine
  | .excluded index reason => Sampling.exclusionWarning index reason
  | .inconsistent index => Sampling.inconsistencyWarning plan index

end SampleNote

/-- Values are only missing for reasons that concern the sample alone. -/
theorem Probe.isSampleLocal_of_extract {probe : Probe} {sample : Sample} {trace : String}
    {failure : Failure} (h : probe.extract sample trace = .error failure) :
    failure.isSampleLocal = true := by
  unfold Probe.extract at h
  cases probe with
  | allocation => cases h
  | phaseTiming =>
    dsimp only at h
    split at h
    · cases h
    · cases h
      rfl
  | maxRss platform =>
    dsimp only at h
    split at h
    · cases h
    · cases h
      rfl
  | instructions =>
    dsimp only at h
    split at h
    · cases h
    · cases h
      rfl

/-- No sample ends a sampling run. -/
theorem Sampling.judge_ne_fatal (plan : SamplingPlan) (sample : Sample) (files : Files)
    (failure : Failure) : judge plan sample files ≠ .fatal failure := by
  unfold judge
  split
  · split
    · exact Verdict.noConfusion
    · split
      · exact Verdict.noConfusion
      · next text _ other hextract =>
        rw [if_pos (Probe.isSampleLocal_of_extract hextract)]
        exact Verdict.noConfusion
  · exact Verdict.noConfusion

/-- A sample is usable if its run succeeded and its text has values. -/
theorem Sampling.judge_eq_usable_iff (plan : SamplingPlan) (sample : Sample) (files : Files)
    (values : List (MetricKey × Float)) :
    judge plan sample files = .usable values ↔
      sample.succeeded = true ∧ ∃ text, traceText plan sample files = .ok text ∧
        plan.probe.extract sample text = .ok values := by
  constructor
  · intro h
    unfold judge at h
    split at h
    next hsucceeded =>
      split at h
      · cases h
      next text htext =>
        split at h
        next found hextract =>
          cases h
          exact ⟨hsucceeded, text, htext, hextract⟩
        · split at h
          · cases h
          · cases h
    · cases h
  · rintro ⟨hsucceeded, text, htext, hextract⟩
    rw [judge, if_pos hsucceeded, htext]
    dsimp only
    rw [hextract]

/-- The call on the series by which a verdict is entered. -/
def Verdict.entry : Verdict → SeriesCall
  | .usable values => .record values
  | _ => .exclude

namespace Invocation

variable (plan : SamplingPlan) (call : Invocation)

/-- The verdict on the sample of a call, by the files that its run has left. -/
def verdict : Verdict := Sampling.judge plan call.sample call.left

/-- The call on the series by which the sample is entered. -/
def entry : SeriesCall := (call.verdict plan).entry

/-- A sample is recorded just if it is usable, with its values. -/
theorem entry_eq_record_iff_verdict (values : List (MetricKey × Float)) :
    call.entry plan = .record values ↔ call.verdict plan = .usable values := by
  unfold entry
  cases call.verdict plan with
  | usable found =>
    constructor
    · intro h
      cases h
      rfl
    · intro h
      cases h
      rfl
  | excluded reason => exact ⟨SeriesCall.noConfusion, Verdict.noConfusion⟩
  | fatal failure => exact ⟨SeriesCall.noConfusion, Verdict.noConfusion⟩

/-- The notes that the sample leaves, by its index and the series that it is entered into. -/
def notes (index : Nat) (set : SeriesSet) : List SampleNote :=
  match call.verdict plan with
  | .usable values =>
    if set.isConsistent (values.map (·.1)) then [] else [.inconsistent index]
  | .excluded reason => [.excluded index reason]
  | .fatal _ => []

end Invocation

namespace Sampling

variable (runner : Runner σ) (plan : SamplingPlan)

/-! ## One sample -/

/-- The call that a sample makes of its runner, and the state of the runner after it. -/
def invoke (found : Files) (s : σ) : Invocation × σ :=
  let command := plan.probe.prepare plan.command
  let (sample, left, next) := runner.run command plan.timeout found s
  ({ command, timeout := plan.timeout, found, sample, left }, next)

/-- The session after a call whose sample has been entered. -/
def enter (index : Nat) (session : Session σ) (call : Invocation) (runnerState : σ) : Session σ :=
  { files := call.left
    runnerState
    series := (session.series.replay [call.entry plan]).2
    progress := session.progress.step "." "sampling"
    log := session.log ++ (call.notes plan index session.series).map (SampleNote.line plan) }

/-- A verdict is entered by one call on the series and with its notes, and the run goes on. -/
theorem settle_verdict (index : Nat) (session : Session σ) (call : Invocation) :
    settle plan index session (call.verdict plan) =
      (.ok (), { session with
        series := (session.series.replay [call.entry plan]).2
        log := session.log ++
          (call.notes plan index session.series).map (SampleNote.line plan) }) := by
  unfold Invocation.entry Invocation.notes
  cases hverdict : call.verdict plan with
  | usable values =>
    cases hconsistent : session.series.isConsistent (values.map (·.1)) with
    | false =>
      simp [settle, Verdict.entry, SeriesSet.replay, SeriesSet.record, hconsistent, SampleNote.line]
    | true => simp [settle, Verdict.entry, SeriesSet.replay, SeriesSet.record, hconsistent]
  | excluded reason => rfl
  | fatal failure => exact absurd hverdict (judge_ne_fatal plan call.sample call.left failure)

/-- Once the trace from before is gone, a sample calls the runner and is entered. -/
theorem takeSample_of_cleared {index : Nat} {session : Session σ} {found : Files}
    (h : clearTrace plan session.files = .ok found) :
    takeSample runner plan index session =
      (.ok (), enter plan index session (invoke runner plan found session.runnerState).1
        (invoke runner plan found session.runnerState).2) := by
  unfold takeSample
  rw [h]
  exact settle_verdict plan index _ (invoke runner plan found session.runnerState).1

/-- A trace from before that cannot be removed ends the run, and the runner is not called. -/
theorem takeSample_of_fault {index : Nat} {session : Session σ} {fault : FileFault}
    (h : clearTrace plan session.files = .error fault) :
    takeSample runner plan index session =
      (.error { kind := .io, detail := fault.message }, session) := by
  unfold takeSample
  rw [h]

end Sampling

/-! ## The record of a run -/

/-- The runner that also keeps a record of its calls. -/
def Runner.recording (runner : Runner σ) : Runner (σ × List Invocation) where
  run command timeout found state :=
    let (sample, left, next) := runner.run command timeout found state.1
    (sample, left, next, state.2 ++ [{ command, timeout, found, sample, left }])

/-- The runner that gives the samples of a script, one after another, and touches no file. Beyond
the end of the script no run succeeds. -/
def Runner.scripted : Runner (List Sample) where
  run _ _ files script := (script.headD {}, files, script.tail)

/-- The session whose runner also keeps a record, which is empty at first. -/
def Session.recorded (session : Session σ) : Session (σ × List Invocation) :=
  { session with runnerState := (session.runnerState, []) }

/-- The session without the record of its runner. -/
def Session.withoutRecord (session : Session (σ × List Invocation)) : Session σ :=
  { session with runnerState := session.runnerState.1 }

namespace Sampling

variable (runner : Runner σ) (plan : SamplingPlan)

/-- The calls of the runner that a sampling run makes, in their order. -/
def transcript (session : Session σ) : List Invocation :=
  (run runner.recording plan session.recorded).2.runnerState.2

theorem takeSample_recording (index : Nat) (session : Session (σ × List Invocation)) :
    takeSample runner plan index session.withoutRecord =
      ((takeSample runner.recording plan index session).1,
        (takeSample runner.recording plan index session).2.withoutRecord) := by
  cases hclear : clearTrace plan session.files with
  | error fault =>
    have hsame : clearTrace plan session.withoutRecord.files = .error fault := hclear
    rw [takeSample_of_fault _ _ hclear, takeSample_of_fault _ _ hsame]
  | ok found =>
    have hsame : clearTrace plan session.withoutRecord.files = .ok found := hclear
    rw [takeSample_of_cleared _ _ hclear, takeSample_of_cleared _ _ hsame]
    rfl

theorem takeSamples_recording (remaining index : Nat) (session : Session (σ × List Invocation)) :
    takeSamples runner plan remaining index session.withoutRecord =
      ((takeSamples runner.recording plan remaining index session).1,
        (takeSamples runner.recording plan remaining index session).2.withoutRecord) := by
  induction remaining generalizing index session with
  | zero => rfl
  | succ remaining ih =>
    rw [takeSamples, takeSamples, takeSample_recording]
    rcases takeSample runner.recording plan index session with ⟨_ | _, next⟩
    · rfl
    · exact ih (index + 1) next

/-- A run whose runner keeps a record returns and leaves what it does without. -/
theorem run_recording (session : Session (σ × List Invocation)) :
    run runner plan session.withoutRecord =
      ((run runner.recording plan session).1,
        (run runner.recording plan session).2.withoutRecord) := by
  unfold run
  rw [takeSamples_recording]
  split
  · rfl
  · rcases takeSamples runner.recording plan plan.reps 0 session with ⟨_ | _, next⟩
    · rfl
    · have hseries : next.withoutRecord.series = next.series := rfl
      simp only [hseries]
      split
      · rfl
      · rfl

/-! ## Accounts -/

/-- The notes that a row of samples leaves, by the index of the first one and the series that it is
entered into. -/
def notes (index : Nat) (set : SeriesSet) : List Invocation → List SampleNote
  | [] => []
  | call :: calls =>
    call.notes plan index set ++ notes (index + 1) (set.replay [call.entry plan]).2 calls

/-- What a row of calls makes of a session. -/
structure Accounts (index : Nat) (session : Session σ) (calls : List Invocation)
    (final : Session σ) : Prop where
  command : ∀ call ∈ calls, call.command = plan.probe.prepare plan.command
  timeout : ∀ call ∈ calls, call.timeout = plan.timeout
  /-- The files that a call finds are free of a trace from before. -/
  cleared : ∀ call ∈ calls, ∃ files, clearTrace plan files = .ok call.found
  series : final.series = (session.series.replay (calls.map (Invocation.entry plan))).2
  log : final.log = session.log ++ (notes plan index session.series calls).map (SampleNote.line plan)

theorem Accounts.nil (index : Nat) (session : Session σ) :
    Accounts plan index session [] session where
  command := by simp
  timeout := by simp
  cleared := by simp
  series := rfl
  log := (List.append_nil _).symm

/-- Accounts look at the series and the log of a session only. -/
theorem Accounts.transfer {τ : Type} {plan : SamplingPlan} {index : Nat}
    {session final : Session σ} {calls : List Invocation} (h : Accounts plan index session calls final)
    {start last : Session τ} (hstart : start.series = session.series ∧ start.log = session.log)
    (hlast : last.series = final.series ∧ last.log = final.log) :
    Accounts plan index start calls last where
  command := h.command
  timeout := h.timeout
  cleared := h.cleared
  series := by rw [hlast.1, hstart.1, h.series]
  log := by rw [hlast.2, hstart.2, hstart.1, h.log]

/-- A sample before others is accounted for with them. -/
theorem Accounts.cons {plan : SamplingPlan} {index : Nat} {session final : Session σ}
    {found files : Files} {calls : List Invocation} (hclear : clearTrace plan files = .ok found)
    (h : Accounts plan (index + 1)
      (enter plan index session (invoke runner plan found session.runnerState).1
        (invoke runner plan found session.runnerState).2) calls final) :
    Accounts plan index session ((invoke runner plan found session.runnerState).1 :: calls)
      final where
  command := List.forall_mem_cons.2 ⟨rfl, h.command⟩
  timeout := List.forall_mem_cons.2 ⟨rfl, h.timeout⟩
  cleared := List.forall_mem_cons.2 ⟨⟨files, hclear⟩, h.cleared⟩
  series := by
    rw [List.map_cons, SeriesSet.replay_cons]
    exact h.series
  log := by
    rw [h.log, notes, List.map_append, ← List.append_assoc]
    rfl

/-- A row of samples is accounted for by the calls that it adds to the record. It stops short of its
last sample only where a trace file cannot be removed. -/
theorem takeSamples_accounts (remaining index : Nat) (session : Session (σ × List Invocation)) :
    ∃ calls,
      (takeSamples runner.recording plan remaining index session).2.runnerState.2 =
        session.runnerState.2 ++ calls ∧
      Accounts plan index session calls
        (takeSamples runner.recording plan remaining index session).2 ∧
      ((takeSamples runner.recording plan remaining index session).1 = .ok () ∧
          calls.length = remaining ∨
        plan.traceFile ≠ none ∧ ∃ fault : FileFault,
          (takeSamples runner.recording plan remaining index session).1 =
            .error { kind := .io, detail := fault.message }) := by
  induction remaining generalizing index session with
  | zero =>
    exact ⟨[], (List.append_nil _).symm, Accounts.nil plan index session, Or.inl ⟨rfl, rfl⟩⟩
  | succ remaining ih =>
    cases hclear : clearTrace plan session.files with
    | error fault =>
      have htrace : plan.traceFile ≠ none := by
        intro hnone
        rw [clearTrace, hnone] at hclear
        cases hclear
      rw [takeSamples, takeSample_of_fault _ _ hclear]
      exact ⟨[], (List.append_nil _).symm, Accounts.nil plan index session,
        Or.inr ⟨htrace, fault, rfl⟩⟩
    | ok found =>
      rw [takeSamples, takeSample_of_cleared _ _ hclear]
      obtain ⟨calls, hrecord, haccounts, hend⟩ := ih (index + 1)
        (enter plan index session (invoke runner.recording plan found session.runnerState).1
          (invoke runner.recording plan found session.runnerState).2)
      refine ⟨_ :: calls, ?_, haccounts.cons runner.recording hclear, ?_⟩
      · rw [List.append_cons]
        exact hrecord
      · rcases hend with ⟨hok, hlength⟩ | hfault
        · exact Or.inl ⟨hok, congrArg (· + 1) hlength⟩
        · exact Or.inr hfault

/-- How a run ends, by its calls and the series it leaves. -/
inductive Ending (calls : List Invocation) (set : SeriesSet) : Except Failure Unit → Prop
  | refused (htrace : plan.traceFile ≠ none) (hreads : plan.probe.readsTraceFile = false)
      (hcalls : calls = []) :
      Ending calls set (.error (refusedTraceFile plan))
  | stopped (htrace : plan.traceFile ≠ none) (fault : FileFault) :
      Ending calls set (.error { kind := .io, detail := fault.message })
  | unusable (hlength : calls.length = plan.reps) (hnone : set.usable = 0) :
      Ending calls set (.error (nothingUsable plan))
  | completed (hlength : calls.length = plan.reps) (hsome : set.usable ≠ 0) :
      Ending calls set (.ok ())

/-- A run that ends with its series, or because they hold no usable sample, has made all calls. -/
theorem Ending.length_eq {plan : SamplingPlan} {calls : List Invocation} {set : SeriesSet}
    {result : Except Failure Unit} (h : Ending plan calls set result)
    (hcomplete : result = .ok () ∨
      ∃ failure, result = .error failure ∧ failure.kind = .noUsableSamples) :
    calls.length = plan.reps := by
  cases h with
  | refused _ _ _ =>
    rcases hcomplete with hok | ⟨failure, herror, hkind⟩
    · cases hok
    · cases herror
      cases hkind
  | stopped _ fault =>
    rcases hcomplete with hok | ⟨failure, herror, hkind⟩
    · cases hok
    · cases herror
      cases hkind
  | unusable hlength _ => exact hlength
  | completed hlength _ => exact hlength

/-- Without a trace file every run makes all of its calls. -/
theorem Ending.length_eq_of_no_trace {plan : SamplingPlan} {calls : List Invocation}
    {set : SeriesSet} {result : Except Failure Unit} (h : Ending plan calls set result)
    (htrace : plan.traceFile = none) : calls.length = plan.reps := by
  cases h with
  | refused hsome _ _ => exact absurd htrace hsome
  | stopped hsome _ => exact absurd htrace hsome
  | unusable hlength _ => exact hlength
  | completed hlength _ => exact hlength

theorem transcript_of_refused (session : Session σ)
    (hrefused : plan.traceFile.isSome && !plan.probe.readsTraceFile) :
    transcript runner plan session = [] := by
  rw [transcript, run, if_pos hrefused]
  rfl

/-- The transcript of a run is the record of its samples. -/
theorem transcript_of_taken (session : Session σ)
    (htaken : ¬ (plan.traceFile.isSome && !plan.probe.readsTraceFile) = true) :
    transcript runner plan session =
      (takeSamples runner.recording plan plan.reps 0 session.recorded).2.runnerState.2 := by
  rw [transcript, run, if_neg htaken]
  rcases takeSamples runner.recording plan plan.reps 0 session.recorded with ⟨_ | _, next⟩
  · rfl
  · dsimp only
    split
    · rfl
    · rfl

/-- A run is accounted for by its transcript. -/
theorem run_accounts (session : Session σ) :
    Accounts plan 0 session (transcript runner plan session) (run runner plan session).2 ∧
      Ending plan (transcript runner plan session) (run runner plan session).2.series
        (run runner plan session).1 := by
  have hrun := run_recording runner plan session.recorded
  have hsession : session.recorded.withoutRecord = session := rfl
  rw [hsession] at hrun
  by_cases hrefused : plan.traceFile.isSome && !plan.probe.readsTraceFile
  · have htrace : plan.traceFile ≠ none := by
      intro hnone
      rw [hnone] at hrefused
      cases hrefused
    have hreads : plan.probe.readsTraceFile = false := by
      rw [Bool.and_eq_true, Bool.not_eq_true'] at hrefused
      exact hrefused.2
    rw [transcript_of_refused runner plan session hrefused, run, if_pos hrefused]
    exact ⟨Accounts.nil plan 0 session, .refused htrace hreads rfl⟩
  · obtain ⟨calls, hrecord, haccounts, hend⟩ :=
      takeSamples_accounts runner plan plan.reps 0 session.recorded
    rw [transcript_of_taken runner plan session hrefused, hrun, run, if_neg hrefused]
    rcases htaken : takeSamples runner.recording plan plan.reps 0 session.recorded with
      ⟨result, next⟩
    rw [htaken] at hrecord haccounts hend
    have hcalls : next.runnerState.2 = calls := hrecord
    rcases hend with ⟨rfl, hlength⟩ | ⟨htrace, fault, rfl⟩
    · dsimp only
      split
      · next hnone =>
        rw [hcalls]
        exact ⟨haccounts.transfer ⟨rfl, rfl⟩ ⟨rfl, rfl⟩, .unusable hlength hnone⟩
      · next hsome =>
        rw [hcalls]
        exact ⟨haccounts.transfer ⟨rfl, rfl⟩ ⟨rfl, rfl⟩, .completed hlength hsome⟩
    · rw [hcalls]
      exact ⟨haccounts.transfer ⟨rfl, rfl⟩ ⟨rfl, rfl⟩, .stopped htrace fault⟩

end Sampling

end RunMeter
