import RunMeter.Proofs.Runs.Transcript

/-!
# What a sampling run returns

Once all samples are taken, a run fails just if its series hold no usable sample. The series belong to
the caller and may hold samples from before, so this is said of all samples gathered so far and not of
those of the run alone. `Sampling.run_fails_iff_series_unusable` gives the result of every run that its
trace file does not stop, and says when this result tells of the samples of the run itself;
`Sampling.earlier_sample_hides_failed_run` is a run for which it does not.
-/

set_option autoImplicit false

namespace RunMeter

variable {σ : Type}

/-- Whether the sample of a call is usable. -/
def Invocation.isUsable (plan : SamplingPlan) (call : Invocation) : Bool :=
  match call.verdict plan with
  | .usable _ => true
  | .excluded _ => false
  | .fatal _ => false

/-- The usable samples are those that are recorded. -/
theorem Invocation.isSome_values_entry (plan : SamplingPlan) (call : Invocation) :
    (call.entry plan).values?.isSome = call.isUsable plan := by
  unfold entry isUsable
  cases call.verdict plan with
  | usable values => rfl
  | excluded reason => rfl
  | fatal failure => rfl

namespace Sampling

variable (runner : Runner σ) (plan : SamplingPlan)

/-- A run adds its usable samples to those from before. -/
theorem usable_run (session : Session σ) :
    (run runner plan session).2.series.usable = session.series.usable +
      (transcript runner plan session).countP (Invocation.isUsable plan) := by
  rw [(run_accounts runner plan session).1.series, SeriesSet.usable_replay, List.countP_map]
  congr 2
  funext call
  exact call.isSome_values_entry plan

/-- What a run returns that is neither refused nor stopped by its trace file. It has taken all of its
samples and counted the usable ones among them, and it fails, for want of usable samples, just if none
of them is usable and none was before. So its result tells whether the count of usable samples has grown just if there was none
before, or if one of its own is usable. -/
theorem run_fails_iff_series_unusable (session : Session σ)
    (haccepted : plan.traceFile = none ∨ plan.probe.readsTraceFile = true)
    (hnotStopped : ∀ failure, (run runner plan session).1 = .error failure → failure.kind ≠ .io) :
    let result := (run runner plan session).1
    let before := session.series.usable
    let after := (run runner plan session).2.series.usable
    let calls := transcript runner plan session
    calls.length = plan.reps ∧
    after = before + calls.countP (Invocation.isUsable plan) ∧
    (result = .ok () ∨ result = .error (nothingUsable plan)) ∧
    (nothingUsable plan).kind = .noUsableSamples ∧
    (result = .error (nothingUsable plan) ↔
      before = 0 ∧ ∀ call ∈ calls, call.isUsable plan = false) ∧
    ((result = .error (nothingUsable plan) ↔ after = before) ↔
      before = 0 ∨ ∃ call ∈ calls, call.isUsable plan = true) := by
  intro result before after calls
  have hafter : after = before + calls.countP (Invocation.isUsable plan) :=
    usable_run runner plan session
  have hnone : calls.countP (Invocation.isUsable plan) = 0 ↔
      ∀ call ∈ calls, call.isUsable plan = false := by
    rw [List.countP_eq_zero]
    simp only [Bool.not_eq_true]
  have hsome : (∃ call ∈ calls, call.isUsable plan = true) ↔
      ¬ calls.countP (Invocation.isUsable plan) = 0 := by
    rw [hnone]
    simp
  have hend := (run_accounts runner plan session).2
  have hfails : calls.length = plan.reps ∧ (result = .ok () ∨ result = .error (nothingUsable plan)) ∧
      (result = .error (nothingUsable plan) ↔ after = 0) := by
    generalize hresult : (run runner plan session).1 = outcome at hend
    have houtcome : result = outcome := hresult
    rw [houtcome]
    cases hend with
    | refused htrace hreads _ =>
      rcases haccepted with hnoTrace | haccepts
      · exact absurd hnoTrace htrace
      · cases hreads.symm.trans haccepts
    | stopped htrace fault => exact absurd rfl (hnotStopped _ hresult)
    | unusable hlength hzero => exact ⟨hlength, Or.inr rfl, iff_of_true rfl hzero⟩
    | completed hlength hnonzero =>
      exact ⟨hlength, Or.inl rfl, iff_of_false (by simp) hnonzero⟩
  obtain ⟨hlength, hresult, hiff⟩ := hfails
  refine ⟨hlength, hafter, hresult, rfl, ?_, ?_⟩
  · rw [hiff, ← hnone]
    omega
  · rw [hiff, hsome]
    omega

/-- After a sample from before, a failed run and a usable one. -/
theorem run_fails_iff_series_unusable_after_one :
    let plan : SamplingPlan := { probe := .allocation, command := { program := "app" }, reps := 2 }
    let session : Session (List Sample) :=
      { files := {}, runnerState := [{}, { stdout := "allocated 20\n", succeeded := true }]
        series := (SeriesSet.empty.record [(.scalar "allocated", 10.0)]).2
        progress := { isTerminal := true } }
    let result := (run Runner.scripted plan session).1
    let after := (run Runner.scripted plan session).2.series.usable
    let calls := transcript Runner.scripted plan session
    plan.traceFile = none ∧ (∀ failure, result = .error failure → failure.kind ≠ .io) ∧
      calls.length = 2 ∧ after = 1 + calls.countP (Invocation.isUsable plan) ∧ after = 2 ∧
      (result = .error (nothingUsable plan) ↔ after = 1) := by
  intro plan session result after calls
  have hok : result = .ok () := by decide +kernel
  have hnotStopped : ∀ failure, result = .error failure → failure.kind ≠ .io := by
    intro failure herror
    cases hok.symm.trans herror
  obtain ⟨hlength, hafter, -, -, -, hiff⟩ :=
    run_fails_iff_series_unusable Runner.scripted plan session (Or.inl rfl) hnotStopped
  have hsome : calls.any (Invocation.isUsable plan) = true := by decide +kernel
  refine ⟨rfl, hnotStopped, hlength, hafter, by decide +kernel, hiff.2 (Or.inr ?_)⟩
  exact List.any_eq_true.1 hsome

/-- Both samples of a run fail, and it returns all the same: the caller has a sample from before. -/
theorem earlier_sample_hides_failed_run :
    let plan : SamplingPlan := { probe := .allocation, command := { program := "app" }, reps := 2 }
    let session : Session (List Sample) :=
      { files := {}, runnerState := [{}, {}]
        series := (SeriesSet.empty.record [(.scalar "allocated", 10.0)]).2
        progress := { isTerminal := true } }
    let final := (run Runner.scripted plan session).2.series
    (run Runner.scripted plan session).1 = .ok () ∧ final.usable = session.series.usable ∧
      final.excluded = 2 := by
  decide +kernel

end Sampling

end RunMeter
