import RunMeter.Proofs.Metric.Transcript

/-!
# The counts of a sampled measurement

A request for samples stands for a plan (`MetricCommand.samplingPlan?`), and unless the plan has no
repetitions, the measurement samples it and reports the series (`Metric.run_of_samplingPlan`). What
the report counts is then what the series have counted, and `Sampling.run_accounts` says how many
samples those are.

All probes but one give a single value per sample, always under the same key, so their report has one
result with a value for each usable sample (`Sampling.exists_single_series`).
`Metric.run_reports_all_samples` puts this together for all requests, flags and runners.
-/

set_option autoImplicit false

namespace RunMeter

variable {σ : Type}

/-! ## Probes with one value -/

/-- The key of the values of a probe that gives one value per sample. -/
def Probe.singleKey? : Probe → Option MetricKey
  | .allocation => some (.scalar "allocated")
  | .phaseTiming => none
  | .maxRss _ => some (.scalar "maxrss")
  | .instructions => some (.scalar "instructions")

theorem Probe.extract_of_singleKey {probe : Probe} {key : MetricKey}
    (hkey : probe.singleKey? = some key) {sample : Sample} {trace : String}
    {values : List (MetricKey × Float)} (h : probe.extract sample trace = .ok values) :
    ∃ x, values = [(key, x)] := by
  unfold Probe.extract at h
  cases probe with
  | allocation =>
    cases hkey
    cases h
    exact ⟨_, rfl⟩
  | phaseTiming => cases hkey
  | maxRss platform =>
    cases hkey
    dsimp only at h
    split at h
    · cases h
      exact ⟨_, rfl⟩
    · cases h
  | instructions =>
    cases hkey
    dsimp only at h
    split at h
    · cases h
      exact ⟨_, rfl⟩
    · cases h

theorem Probe.exists_singleKey {probe : Probe} (h : probe ≠ .phaseTiming) :
    ∃ key, probe.singleKey? = some key := by
  cases probe with
  | phaseTiming => exact absurd rfl h
  | allocation | maxRss platform | instructions => exact ⟨_, rfl⟩

/-- A sample of such a probe is entered with one value. -/
theorem Invocation.single_of_entry {plan : SamplingPlan} {key : MetricKey}
    (hkey : plan.probe.singleKey? = some key) {call : Invocation}
    {values : List (MetricKey × Float)} (h : call.entry plan = .record values) :
    ∃ x, values = [(key, x)] := by
  rw [entry_eq_record_iff_verdict, verdict, Sampling.judge_eq_usable_iff] at h
  obtain ⟨-, text, -, hextract⟩ := h
  exact Probe.extract_of_singleKey hkey hextract

namespace SeriesSet

/-- Samples with one value each make up one series from nothing, if there are any. -/
theorem series_replay_of_single {key : MetricKey} {calls : List SeriesCall}
    (h : ∀ values, .record values ∈ calls → ∃ x, values = [(key, x)])
    (husable : (SeriesSet.empty.replay calls).2.usable ≠ 0) :
    ∃ values, values.length = (SeriesSet.empty.replay calls).2.usable ∧
      (SeriesSet.empty.replay calls).2.series = [{ key, values }] := by
  have hsamples : ∀ values ∈ calls.filterMap SeriesCall.values?, ∃ x, values = [(key, x)] := by
    intro values hvalues
    obtain ⟨call, hcall, hsome⟩ := List.mem_filterMap.1 hvalues
    cases call with
    | record found =>
      cases hsome
      exact h values hcall
    | exclude => cases hsome
  rw [replay_eq_recordAll] at husable ⊢
  dsimp only at husable ⊢
  rw [usable_recordAll] at husable ⊢
  cases hcalls : calls.filterMap SeriesCall.values? with
  | nil =>
    rw [hcalls] at husable
    exact absurd rfl husable
  | cons first rest =>
    rw [hcalls, List.forall_mem_cons] at hsamples
    obtain ⟨⟨x, rfl⟩, hrest⟩ := hsamples
    have hfirst : (SeriesSet.empty.record [(key, x)]).2.series = [{ key, values := [x] }] := rfl
    obtain ⟨more, hlength, hseries⟩ := series_recordAll_of_single hfirst hrest
    refine ⟨x :: more, ?_, hseries⟩
    rw [List.length_cons, List.length_cons, hlength]
    exact (Nat.zero_add _).symm

/-- From nothing, no sample is usable just if all of them are excluded. -/
theorem usable_replay_eq_zero_iff (calls : List SeriesCall) :
    (SeriesSet.empty.replay calls).2.usable = 0 ↔ ∀ call ∈ calls, call.values? = none := by
  rw [replay_eq_recordAll]
  dsimp only
  rw [usable_recordAll, ← List.filterMap_eq_nil_iff, ← List.length_eq_zero_iff]
  change 0 + _ = 0 ↔ _
  rw [Nat.zero_add]

end SeriesSet

/-- A report of one series has one result, with a value for each sample, and one line. -/
theorem MetricsReport.ofSeries_of_single {set : SeriesSet} {key : MetricKey} {values : List Float}
    (hseries : set.series = [{ key, values }]) (hvalues : values ≠ []) (metric : String)
    (unit : Measure) (command : String) (stamp : RunStamp) :
    ∃ entry, (ofSeries metric unit set command stamp).document.member "results" =
        .object [(key.name, entry)] ∧
      entry.member "samples" = .array (values.map unit.document) ∧
      (ofSeries metric unit set command stamp).human.length = 1 := by
  cases values with
  | nil => exact absurd rfl hvalues
  | cons first rest =>
    have hentries : ∃ entry, ReportEntry.ofSeries? unit { key, values := first :: rest } =
        some entry ∧ entry.name = key.name ∧
          entry.samples = (first :: rest).map unit.document := ⟨_, rfl, rfl, rfl⟩
    obtain ⟨entry, hentry, hname, hsamples⟩ := hentries
    have hreport : (ofSeries metric unit set command stamp).entries = [entry] := by
      rw [ofSeries, hseries, List.filterMap_cons_some hentry]
      rfl
    have hmember : memberName [entry] entry = key.name := by
      rw [memberName, if_neg, hname]
      exact Nat.not_lt.2 List.countP_le_length
    refine ⟨entry.document, ?_, ?_, ?_⟩
    · change results (ofSeries metric unit set command stamp).entries = _
      rw [hreport, results, List.map_singleton, hmember]
      rfl
    · rw [← hsamples]
      rfl
    · rw [human, hreport]
      rfl

/-- Without a trace file a sample is excluded just if its run failed or its output has no values. -/
theorem Invocation.values_entry_eq_none_iff {plan : SamplingPlan} (htrace : plan.traceFile = none)
    (call : Invocation) :
    (call.entry plan).values? = none ↔
      call.sample.succeeded = false ∨
        ∃ failure, plan.probe.extract call.sample call.sample.combined = .error failure := by
  have htext : Sampling.traceText plan call.sample call.left = .ok call.sample.combined := by
    rw [Sampling.traceText, htrace]
  unfold entry verdict Sampling.judge
  rw [htext]
  dsimp only
  cases hsucceeded : call.sample.succeeded with
  | false => exact ⟨fun _ => Or.inl rfl, fun _ => rfl⟩
  | true =>
    rw [if_pos rfl]
    cases hextract : plan.probe.extract call.sample call.sample.combined with
    | ok values =>
      constructor
      · intro hnone
        cases hnone
      · rintro (hfailed | ⟨failure, hbroken⟩)
        · cases hfailed
        · cases hbroken
    | error failure =>
      dsimp only
      rw [if_pos (Probe.isSampleLocal_of_extract hextract)]
      exact ⟨fun _ => Or.inr ⟨failure, rfl⟩, fun _ => rfl⟩

/-! ## Requests for samples -/

/-- What a request for samples of a command stands for. The repetitions that are not given are those
of the settings, but one for instructions. -/
def MetricCommand.samplingPlan? (settings : Settings) (occasion : Occasion) :
    MetricCommand → Option SamplingPlan
  | .alloc flags traceFile (program :: args) =>
    some
      { probe := .allocation
        command := { program, args }
        reps := flags.reps.getD settings.reps
        timeout := flags.timeout
        traceFile }
  | .time flags traceFile (program :: args) =>
    some
      { probe := .phaseTiming
        command := { program, args }
        reps := flags.reps.getD settings.reps
        timeout := flags.timeout
        traceFile }
  | .maxrss flags (program :: args) =>
    (settings.rssPlatform <|> occasion.hostPlatform).map fun platform =>
      { probe := .maxRss platform
        command := { program, args }
        reps := flags.reps.getD settings.reps
        timeout := flags.timeout }
  | .instructions flags (program :: args) =>
    some
      { probe := .instructions
        command := { program, args }
        reps := flags.reps.getD 1
        timeout := flags.timeout }
  | _ => none

namespace Metric

variable {settings : Settings} {request : MetricCommand} {occasion : Occasion}
  {plan : SamplingPlan} (runner : Runner σ) (files : Files) (s : σ) (progress : Progress)

/-- A request for samples carries out its plan, unless it has no repetitions. -/
theorem run_of_samplingPlan (hplan : request.samplingPlan? settings occasion = some plan) :
    run settings request runner occasion files s progress =
      if plan.reps = 0 then
        refused (refusal "--reps must be at least 1") files s progress
      else sample runner occasion plan files s progress := by
  cases request with
  | alloc flags traceFile words =>
    cases words with
    | nil => cases hplan
    | cons program args =>
      cases hplan
      rfl
  | time flags traceFile words =>
    cases words with
    | nil => cases hplan
    | cons program args =>
      cases hplan
      rfl
  | maxrss flags words =>
    cases words with
    | nil => cases hplan
    | cons program args =>
      obtain ⟨platform, hplatform, rfl⟩ := Option.map_eq_some_iff.1 hplan
      simp only [run, resolvePlatform, hplatform]
      rfl
  | instructions flags words =>
    cases words with
    | nil => cases hplan
    | cons program args =>
      cases hplan
      rfl
  | minheap confirmations timeout boundArg boundVariable words => cases hplan

/-- What is reported of the samples of a plan. -/
theorem sample_result :
    let outcome := Sampling.run runner plan { files, runnerState := s, progress }
    (sample runner occasion plan files s progress).result = outcome.1.map fun _ =>
      (MetricsReport.ofSeries plan.probe.name plan.probe.unit outcome.2.series
        plan.command.display occasion.stamp).output := by
  unfold sample
  rcases Sampling.run runner plan { files, runnerState := s, progress } with ⟨_ | _, session⟩
  · rfl
  · rfl

theorem sample_calls :
    (sample runner.recording occasion plan files (s, []) progress).runnerState.2 =
      Sampling.transcript runner plan { files, runnerState := s, progress } := by
  unfold sample Sampling.transcript Session.recorded
  rcases Sampling.run runner.recording plan { files, runnerState := (s, []), progress } with
    ⟨_ | _, session⟩
  · rfl
  · rfl

/-- The calls of a request for samples are those of its plan. -/
theorem transcript_of_samplingPlan (hplan : request.samplingPlan? settings occasion = some plan)
    (hreps : plan.reps ≠ 0) :
    transcript runner occasion settings request files s progress =
      Sampling.transcript runner plan { files, runnerState := s, progress } := by
  rw [transcript, run_of_samplingPlan _ _ _ _ hplan, if_neg hreps, sample_calls]

/-- A document is made of the series of a run that has taken all samples, some of them usable. -/
theorem exists_series_of_output {output : Output}
    (hok : (sample runner occasion plan files s progress).result = .ok output) :
    let calls := Sampling.transcript runner plan { files, runnerState := s, progress }
    let set := (SeriesSet.empty.replay (calls.map (Invocation.entry plan))).2
    calls.length = plan.reps ∧ set.usable ≠ 0 ∧
      output = (MetricsReport.ofSeries plan.probe.name plan.probe.unit set plan.command.display
        occasion.stamp).output := by
  intro calls set
  obtain ⟨haccounts, hend⟩ :=
    Sampling.run_accounts runner plan { files, runnerState := s, progress }
  have hset : (Sampling.run runner plan { files, runnerState := s, progress }).2.series = set :=
    haccounts.series
  rw [sample_result, hset] at hok
  rw [hset] at hend
  cases hresult : (Sampling.run runner plan { files, runnerState := s, progress }).1 with
  | error failure =>
    rw [hresult] at hok
    cases hok
  | ok _ =>
    rw [hresult] at hok hend
    cases hend with
    | completed hlength hsome => exact ⟨hlength, hsome, (Except.ok.inj hok).symm⟩

/-- Without a trace file the only failure is that no sample was usable: all calls are made, and every
one of them has failed or printed no values. -/
theorem sample_of_no_trace (htrace : plan.traceFile = none) :
    let result := (sample runner occasion plan files s progress).result
    let calls := Sampling.transcript runner plan { files, runnerState := s, progress }
    let unusable := ∃ failure, result = .error failure ∧ failure.kind = .noUsableSamples
    calls.length = plan.reps ∧ ((∃ output, result = .ok output) ∨ unusable) ∧
      (unusable ↔ ∀ call ∈ calls, call.sample.succeeded = false ∨
        ∃ failure, plan.probe.extract call.sample call.sample.combined = .error failure) := by
  intro result calls unusable
  obtain ⟨haccounts, hend⟩ :=
    Sampling.run_accounts runner plan { files, runnerState := s, progress }
  have hset : (Sampling.run runner plan { files, runnerState := s, progress }).2.series =
      (SeriesSet.empty.replay (calls.map (Invocation.entry plan))).2 := haccounts.series
  have hresult : result = _ := sample_result runner files s progress
  have hnone : (SeriesSet.empty.replay (calls.map (Invocation.entry plan))).2.usable = 0 ↔
      ∀ call ∈ calls, call.sample.succeeded = false ∨
        ∃ failure, plan.probe.extract call.sample call.sample.combined = .error failure := by
    rw [SeriesSet.usable_replay_eq_zero_iff, List.forall_mem_map]
    exact forall₂_congr fun call _ => Invocation.values_entry_eq_none_iff htrace call
  rw [← hnone, ← hset]
  refine ⟨hend.length_eq_of_no_trace htrace, ?_⟩
  generalize (Sampling.run runner plan { files, runnerState := s, progress }).1 = outcome
    at hend hresult
  cases hend with
  | refused hsome _ _ => exact absurd htrace hsome
  | stopped hsome _ => exact absurd htrace hsome
  | unusable _ hzero =>
    have hfailure : unusable := ⟨_, hresult, rfl⟩
    exact ⟨Or.inr hfailure, iff_of_true hfailure hzero⟩
  | completed _ hsome =>
    have hfine : ¬ unusable := by
      rintro ⟨failure, herror, -⟩
      cases hresult.symm.trans herror
    exact ⟨Or.inl ⟨_, hresult⟩, iff_of_false hfine hsome⟩

/-- A measurement by samples, for any settings, flags, command and runner. Without repetitions it is
refused and nothing is run. A document means that all samples have been taken and at least one was
usable, and it counts them: the usable and the excluded ones are all of them. If the probe gives one
value per sample, the document has one result with as many values as there are usable samples, and
there is one line for people. Without a trace file the only other outcome is that no sample was
usable, which happens just if every run has failed or printed no values. -/
theorem run_reports_all_samples (settings : Settings) (request : MetricCommand)
    (occasion : Occasion) {plan : SamplingPlan}
    (hplan : request.samplingPlan? settings occasion = some plan) (runner : Runner σ)
    (files : Files) (s : σ) (progress : Progress) :
    let result := (run settings request runner occasion files s progress).result
    let calls := transcript runner occasion settings request files s progress
    let unusable := ∃ failure, result = .error failure ∧ failure.kind = .noUsableSamples
    (plan.reps = 0 →
      (∃ failure, result = .error failure ∧ failure.kind = .invalidArgument) ∧ calls = []) ∧
    (∀ output, result = .ok output → ∃ usable excluded : Nat,
      output.document.member "usableSamples" = .natural usable ∧
      output.document.member "excludedSamples" = .natural excluded ∧
      calls.length = plan.reps ∧ 1 ≤ usable ∧ usable + excluded = plan.reps ∧
      (plan.probe ≠ .phaseTiming → ∃ name entry samples,
        output.document.member "results" = .object [(name, entry)] ∧
        entry.member "samples" = .array samples ∧ samples.length = usable ∧
        output.human.length = 1)) ∧
    (1 ≤ plan.reps → plan.traceFile = none →
      calls.length = plan.reps ∧ ((∃ output, result = .ok output) ∨ unusable) ∧
      (unusable ↔ ∀ call ∈ calls, call.sample.succeeded = false ∨
        ∃ failure, plan.probe.extract call.sample call.sample.combined = .error failure)) := by
  intro result calls unusable
  have hrun := run_of_samplingPlan runner files s progress hplan
  have hrefused : plan.reps = 0 →
      result = .error (refusal "--reps must be at least 1") ∧ calls = [] := by
    intro hreps
    have hrecorded := run_of_samplingPlan runner.recording files (s, []) progress hplan
    rw [if_pos hreps] at hrun hrecorded
    exact ⟨congrArg Measured.result hrun,
      congrArg (fun measured => measured.runnerState.2) hrecorded⟩
  refine ⟨fun hreps => ⟨⟨_, (hrefused hreps).1, rfl⟩, (hrefused hreps).2⟩, ?_, ?_⟩
  · intro output hok
    have hreps : plan.reps ≠ 0 := by
      intro hreps
      cases (hrefused hreps).1.symm.trans hok
    have hcalls : calls = _ := transcript_of_samplingPlan runner files s progress hplan hreps
    rw [if_neg hreps] at hrun
    obtain ⟨hlength, husable, rfl⟩ := exists_series_of_output runner files s progress
      ((congrArg Measured.result hrun).symm.trans hok)
    rw [← hcalls] at hlength husable ⊢
    have hcount := SeriesSet.usable_add_excluded_replay .empty (calls.map (Invocation.entry plan))
    have hzero : SeriesSet.empty.usable + SeriesSet.empty.excluded = 0 := rfl
    rw [hzero, Nat.zero_add, List.length_map, hlength] at hcount
    refine ⟨_, _, rfl, rfl, hlength, Nat.one_le_iff_ne_zero.2 husable, hcount, ?_⟩
    intro hprobe
    obtain ⟨key, hkey⟩ := Probe.exists_singleKey hprobe
    have hsingle : ∀ values, .record values ∈ calls.map (Invocation.entry plan) →
        ∃ x, values = [(key, x)] := by
      intro values hvalues
      obtain ⟨call, -, hentry⟩ := List.mem_map.1 hvalues
      exact Invocation.single_of_entry hkey hentry
    obtain ⟨values, hvalues, hseries⟩ := SeriesSet.series_replay_of_single hsingle husable
    have hsome : values ≠ [] := by
      rintro rfl
      exact husable hvalues.symm
    obtain ⟨entry, hresults, hsamples, hhuman⟩ := MetricsReport.ofSeries_of_single hseries hsome
      plan.probe.name plan.probe.unit plan.command.display occasion.stamp
    refine ⟨key.name, entry, _, hresults, hsamples, ?_, hhuman⟩
    rw [List.length_map]
    exact hvalues
  · intro hreps htrace
    have hsome : plan.reps ≠ 0 := Nat.one_le_iff_ne_zero.1 hreps
    have hcalls : calls = _ := transcript_of_samplingPlan runner files s progress hplan hsome
    have hsample : result = (sample runner occasion plan files s progress).result := by
      rw [if_neg hsome] at hrun
      exact congrArg Measured.result hrun
    have hplain := @sample_of_no_trace σ occasion plan runner files s progress htrace
    rw [← hcalls, ← hsample] at hplain
    exact hplain

/-- Of three runs the first fails and the second prints no size, so the report has the size that the
third prints. -/
theorem run_reports_one_size :
    let request := MetricCommand.maxrss { reps := some 3 } ["app"]
    let occasion : Occasion :=
      { stamp := { runId := "1", startedAt := "now" }, hostPlatform := some .macos }
    let plan : SamplingPlan :=
      { probe := .maxRss .macos, command := { program := "app" }, reps := 3 }
    let runner := Runner.scripted
    let script : List Sample :=
      [{}, { succeeded := true },
        { succeeded := true, stderr := "1048576  maximum resident set size" }]
    let progress : Progress := { isTerminal := true }
    let result := (run {} request runner occasion {} script progress).result
    request.samplingPlan? {} occasion = some plan ∧
      1 ≤ plan.reps ∧ plan.traceFile = none ∧ plan.probe ≠ .phaseTiming ∧
      (transcript runner occasion {} request {} script progress).length = 3 ∧
      ∃ output, result = .ok output ∧
        output.document.member "usableSamples" = .natural 1 ∧
        output.document.member "excludedSamples" = .natural 2 ∧
        ∃ name entry samples, output.document.member "results" = .object [(name, entry)] ∧
          entry.member "samples" = .array samples ∧ samples.length = 1 ∧
          output.human.length = 1 := by
  intro request occasion plan runner script progress result
  have hplan : request.samplingPlan? {} occasion = some plan := rfl
  have hprobe : plan.probe ≠ .phaseTiming := Probe.noConfusion
  obtain ⟨-, hreport, hplain⟩ :=
    run_reports_all_samples {} request occasion hplan runner {} script progress
  let outcome := Sampling.run runner plan { files := {}, runnerState := script, progress }
  have hcounts : outcome.1 = .ok () ∧ outcome.2.series.usable = 1 := by decide +kernel
  have hok : result = .ok (MetricsReport.ofSeries "maxrss" .mebibytes outcome.2.series "app"
      occasion.stamp).output := by
    have hrun := run_of_samplingPlan runner {} script progress hplan
    rw [if_neg (by decide)] at hrun
    have hsample : result = (sample runner occasion plan {} script progress).result :=
      congrArg Measured.result hrun
    rw [sample_result] at hsample
    change result = outcome.1.map _ at hsample
    rw [hcounts.1] at hsample
    exact hsample
  obtain ⟨usable, excluded, husable, hexcluded, -, -, hsum, hsingle⟩ := hreport _ hok
  have hone : usable = 1 := by
    have hcount : outcome.2.series.usable = usable := Json.natural_inj husable
    rw [← hcount, hcounts.2]
  have htwo : excluded = 2 := by
    change usable + excluded = 3 at hsum
    omega
  subst hone htwo
  exact ⟨hplan, by decide, rfl, hprobe, (hplain (by decide) rfl).1, _, hok, husable, hexcluded,
    hsingle hprobe⟩

end Metric

end RunMeter
