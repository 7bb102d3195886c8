import RunMeter.Proofs.Runs.Transcript

/-!
# How a sampling run can fail

Whatever a sample holds, it ends no run. A probe that finds no values in it says so with a failure
that concerns the sample alone (`Probe.kind_of_extract`), so that the fatal verdict is never reached
(`Sampling.judge_ne_fatal`).

What does end a run early is its trace file, in two ways. A probe that reads the report of its tool
refuses one before anything is run. Otherwise the run stops where the trace from before cannot be
removed, and leaves the session as the samples before have made it (`Sampling.run_invalid_iff`,
`Sampling.run_io_iff`). `Sampling.run_stopped_only_by_trace_file` is the whole list.
-/

set_option autoImplicit false

namespace RunMeter

variable {σ : Type}

theorem Failure.isSampleLocal_iff (failure : Failure) :
    failure.isSampleLocal = true ↔ failure.kind = .protocol ∨ failure.kind = .missingPattern := by
  rw [isSampleLocal, Bool.or_eq_true, beq_iff_eq, beq_iff_eq]

namespace Probe

/-- The failures by which a probe says that a sample has no values. -/
theorem kind_of_extract {probe : Probe} {sample : Sample} {trace : String} {failure : Failure}
    (h : probe.extract sample trace = .error failure) :
    failure.kind = .protocol ∨ failure.kind = .missingPattern :=
  failure.isSampleLocal_iff.1 (isSampleLocal_of_extract h)

/-- The probes that read the report of a tool. -/
theorem readsTraceFile_eq_false_iff (probe : Probe) :
    probe.readsTraceFile = false ↔
      (∃ platform, probe = .maxRss platform) ∨ probe = .instructions := by
  cases probe with
  | allocation => simp [readsTraceFile]
  | phaseTiming => simp [readsTraceFile]
  | maxRss platform => simp [readsTraceFile]
  | instructions => simp [readsTraceFile]

end Probe

namespace Sampling

variable (runner : Runner σ) (plan : SamplingPlan)

/-- A trace from before stays only where there is one that cannot be removed. -/
theorem clearTrace_eq_error_iff {files : Files} {fault : FileFault} :
    clearTrace plan files = .error fault ↔
      ∃ name, plan.traceFile = some name ∧ files.remove name = .error fault ∧
        fault ≠ .notFound := by
  unfold clearTrace
  cases plan.traceFile with
  | none => simp
  | some name =>
    simp only [Option.some.injEq, exists_eq_left']
    split
    next cleared hremove => simp [hremove]
    next hremove =>
      rw [hremove]
      constructor
      · intro h
        cases h
      · rintro ⟨hfault, hne⟩
        exact absurd (Except.error.inj hfault).symm hne
    next other hne hremove =>
      rw [hremove, Except.error.injEq]
      constructor
      · rintro rfl
        exact ⟨rfl, hne⟩
      · exact And.left

/-- A row of samples stops just where the trace from before cannot be removed, and all it leaves is
what the samples before have made. -/
theorem takeSamples_eq_error_iff {remaining index : Nat} {session final : Session σ}
    {failure : Failure} :
    takeSamples runner plan remaining index session = (.error failure, final) ↔
      ∃ completed fault, completed < remaining ∧
        takeSamples runner plan completed index session = (.ok (), final) ∧
        clearTrace plan final.files = .error fault ∧
        failure = { kind := .io, detail := fault.message } := by
  induction remaining generalizing index session with
  | zero =>
    constructor
    · intro h
      cases h
    · rintro ⟨completed, -, hlt, -⟩
      exact absurd hlt (Nat.not_lt_zero completed)
  | succ remaining ih =>
    cases hclear : clearTrace plan session.files with
    | error fault =>
      rw [takeSamples, takeSample_of_fault runner plan hclear]
      constructor
      · intro h
        cases h
        exact ⟨0, fault, Nat.succ_pos remaining, rfl, hclear, rfl⟩
      · rintro ⟨completed, other, -, htaken, hother, rfl⟩
        cases completed with
        | zero =>
          cases htaken
          cases hclear.symm.trans hother
          rfl
        | succ completed =>
          rw [takeSamples, takeSample_of_fault runner plan hclear] at htaken
          cases htaken
    | ok found =>
      rw [takeSamples, takeSample_of_cleared runner plan hclear]
      dsimp only
      rw [ih]
      constructor
      · rintro ⟨completed, fault, hlt, htaken, hfault, rfl⟩
        refine ⟨completed + 1, fault, Nat.succ_lt_succ hlt, ?_, hfault, rfl⟩
        rw [takeSamples, takeSample_of_cleared runner plan hclear]
        exact htaken
      · rintro ⟨completed, fault, hlt, htaken, hfault, rfl⟩
        cases completed with
        | zero =>
          cases htaken
          cases hclear.symm.trans hfault
        | succ completed =>
          rw [takeSamples, takeSample_of_cleared runner plan hclear] at htaken
          exact ⟨completed, fault, Nat.lt_of_succ_lt_succ hlt, htaken, hfault, rfl⟩

/-- What a probe refuses is a trace file, if it reads the report of its tool. -/
theorem refuses_iff :
    (plan.traceFile.isSome && !plan.probe.readsTraceFile) = true ↔
      plan.traceFile ≠ none ∧ plan.probe.readsTraceFile = false := by
  rw [Bool.and_eq_true, Bool.not_eq_true', Option.isSome_iff_ne_none]

/-- A run that is refused leaves everything as it was. -/
theorem run_of_refused (session : Session σ)
    (h : (plan.traceFile.isSome && !plan.probe.readsTraceFile) = true) :
    run runner plan session = (.error (refusedTraceFile plan), session) := by
  rw [run, if_pos h]

/-- A run that its probe does not refuse fails with an I/O error just where its samples stop short. -/
theorem run_eq_io_error_iff {session final : Session σ} {failure : Failure} :
    run runner plan session = (.error failure, final) ∧ failure.kind = .io ↔
      ¬ (plan.traceFile.isSome && !plan.probe.readsTraceFile) = true ∧
        takeSamples runner plan plan.reps 0 session = (.error failure, final) := by
  unfold run
  split
  next hrefused =>
    constructor
    · rintro ⟨h, hkind⟩
      cases h
      cases hkind
    · rintro ⟨haccepted, -⟩
      exact absurd hrefused haccepted
  next haccepted =>
    rcases htaken : takeSamples runner plan plan.reps 0 session with ⟨_ | _, last⟩
    next stopped =>
      obtain ⟨-, fault, -, -, -, rfl⟩ := (takeSamples_eq_error_iff runner plan).1 htaken
      dsimp only
      constructor
      · rintro ⟨h, -⟩
        exact ⟨haccepted, h⟩
      · rintro ⟨-, h⟩
        cases h
        exact ⟨rfl, rfl⟩
    next =>
      constructor
      · rintro ⟨h, hkind⟩
        dsimp only at h
        split at h
        · cases h
          cases hkind
        · cases h
      · rintro ⟨-, h⟩
        cases h

/-- The calls of a run that stops short are those of the samples before. -/
theorem takeSamples_of_stopped {session : Session σ} {failure : Failure}
    (h : (run runner plan session).1 = .error failure) (hkind : failure.kind = .io) :
    ∃ fault, (transcript runner plan session).length < plan.reps ∧
      takeSamples runner plan (transcript runner plan session).length 0 session =
        (.ok (), (run runner plan session).2) ∧
      clearTrace plan (run runner plan session).2.files = .error fault ∧
      failure = { kind := .io, detail := fault.message } := by
  have hrun := run_recording runner plan session.recorded
  have hsession : session.recorded.withoutRecord = session := rfl
  rw [hsession] at hrun
  rw [hrun] at h
  obtain ⟨haccepted, hstopped⟩ :=
    (run_eq_io_error_iff runner.recording plan).1 ⟨Prod.ext h rfl, hkind⟩
  obtain ⟨completed, fault, hlt, htaken, hfault, hfailure⟩ :=
    (takeSamples_eq_error_iff runner.recording plan).1 hstopped
  have hcalls : transcript runner plan session =
      (run runner.recording plan session.recorded).2.runnerState.2 := rfl
  obtain ⟨calls, hrecord, -, hend⟩ := takeSamples_accounts runner plan completed 0 session.recorded
  rw [htaken] at hrecord hend
  have hlength : (transcript runner plan session).length = completed := by
    rcases hend with ⟨-, hlength⟩ | ⟨-, _, herror⟩
    · rw [hcalls, hrecord, ← hlength]
      exact congrArg List.length (List.nil_append calls)
    · cases herror
  have hplain := takeSamples_recording runner plan completed 0 session.recorded
  rw [htaken, hsession] at hplain
  rw [hlength, hrun]
  exact ⟨fault, hlt, hplain, hfault, hfailure⟩

/-- The kinds of failure that a run can end with. -/
theorem Ending.kind_cases {plan : SamplingPlan} {calls : List Invocation} {set : SeriesSet}
    {result : Except Failure Unit} (h : Ending plan calls set result) :
    result = .ok () ∨ ∃ failure, result = .error failure ∧
      (failure.kind = .invalidArgument ∧ plan.traceFile ≠ none ∧
          plan.probe.readsTraceFile = false ∨
        failure.kind = .io ∨ failure.kind = .noUsableSamples) := by
  cases h with
  | refused htrace hreads _ => exact Or.inr ⟨_, rfl, Or.inl ⟨rfl, htrace, hreads⟩⟩
  | stopped _ _ => exact Or.inr ⟨_, rfl, Or.inr (Or.inl rfl)⟩
  | unusable _ _ => exact Or.inr ⟨_, rfl, Or.inr (Or.inr rfl)⟩
  | completed _ _ => exact Or.inl rfl

/-- A run fails for an invalid argument just if its probe refuses the trace file. -/
theorem run_invalid_iff (session : Session σ) :
    (∃ failure, (run runner plan session).1 = .error failure ∧ failure.kind = .invalidArgument) ↔
      (plan.traceFile.isSome && !plan.probe.readsTraceFile) = true := by
  constructor
  · rintro ⟨failure, hfailure, hkind⟩
    rw [refuses_iff]
    rcases (run_accounts runner plan session).2.kind_cases with hok | ⟨other, hother, hwhy⟩
    · cases hfailure.symm.trans hok
    · cases hfailure.symm.trans hother
      rcases hwhy with ⟨-, hrefuses⟩ | hio | hunusable
      · exact hrefuses
      · cases hkind.symm.trans hio
      · cases hkind.symm.trans hunusable
  · intro h
    exact ⟨refusedTraceFile plan, congrArg Prod.fst (run_of_refused runner plan session h), rfl⟩

/-- A run fails with an I/O error just if, after the calls that it has made, the trace file cannot be
removed. -/
theorem run_io_iff (session : Session σ) (failure : Failure) :
    (run runner plan session).1 = .error failure ∧ failure.kind = .io ↔
      ∃ name fault, plan.traceFile = some name ∧ plan.probe.readsTraceFile = true ∧
        failure = { kind := .io, detail := fault.message } ∧
        (transcript runner plan session).length < plan.reps ∧
        takeSamples runner plan (transcript runner plan session).length 0 session =
          (.ok (), (run runner plan session).2) ∧
        (run runner plan session).2.files.remove name = .error fault ∧ fault ≠ .notFound := by
  constructor
  · rintro ⟨hfailure, hkind⟩
    obtain ⟨haccepted, -⟩ := (run_eq_io_error_iff runner plan).1 ⟨Prod.ext hfailure rfl, hkind⟩
    obtain ⟨fault, hlt, htaken, hclear, hfault⟩ := takeSamples_of_stopped runner plan hfailure hkind
    obtain ⟨name, htrace, hremove, hne⟩ := (clearTrace_eq_error_iff plan).1 hclear
    have hreads : plan.probe.readsTraceFile = true := by
      rw [htrace] at haccepted
      simpa using haccepted
    exact ⟨name, fault, htrace, hreads, hfault, hlt, htaken, hremove, hne⟩
  · rintro ⟨name, fault, htrace, hreads, hfailure, hlt, htaken, hremove, hne⟩
    have hclear := (clearTrace_eq_error_iff plan).2 ⟨name, htrace, hremove, hne⟩
    have hstopped := (takeSamples_eq_error_iff runner plan).2
      ⟨_, fault, hlt, htaken, hclear, hfailure⟩
    have haccepted : ¬ (plan.traceFile.isSome && !plan.probe.readsTraceFile) = true := by
      rw [hreads]
      simp
    obtain ⟨hrun, hkind⟩ := (run_eq_io_error_iff runner plan).2 ⟨haccepted, hstopped⟩
    exact ⟨congrArg Prod.fst hrun, hkind⟩

/-- How a sampling run can end. No sample can stop it: a probe finds fault with the sample alone,
and the verdict on it is never fatal. So a run returns, or no sample was usable, or it fails because of
its trace file. That is refused exactly if the probe reads the report of its tool, and then nothing is
run and nothing changed. Or it cannot be removed before some sample; the session is then as the
samples before that one have left it, and the series are what their calls have entered. -/
theorem run_stopped_only_by_trace_file (runner : Runner σ) (plan : SamplingPlan)
    (session : Session σ) :
    let result := (run runner plan session).1
    let final := (run runner plan session).2
    let calls := transcript runner plan session
    let failsWith := fun kind => ∃ failure, result = .error failure ∧ failure.kind = kind
    (∀ (probe : Probe) (sample : Sample) (trace : String) (failure : Failure),
      probe.extract sample trace = .error failure →
        failure.kind = .protocol ∨ failure.kind = .missingPattern) ∧
    (∀ sample files failure, judge plan sample files ≠ .fatal failure) ∧
    (result = .ok () ∨ failsWith .invalidArgument ∨ failsWith .io ∨ failsWith .noUsableSamples) ∧
    (failsWith .invalidArgument ↔ plan.traceFile ≠ none ∧
      ((∃ platform, plan.probe = .maxRss platform) ∨ plan.probe = .instructions)) ∧
    (failsWith .invalidArgument → calls = [] ∧ final = session) ∧
    (∀ failure, result = .error failure ∧ failure.kind = .io ↔
      ∃ name fault, plan.traceFile = some name ∧ plan.probe.readsTraceFile = true ∧
        failure = { kind := .io, detail := fault.message } ∧ calls.length < plan.reps ∧
        takeSamples runner plan calls.length 0 session = (.ok (), final) ∧
        final.files.remove name = .error fault ∧ fault ≠ .notFound) ∧
    final.series = (session.series.replay (calls.map (Invocation.entry plan))).2 := by
  intro result final calls failsWith
  obtain ⟨haccounts, hend⟩ := run_accounts runner plan session
  have hrefused : failsWith .invalidArgument ↔
      (plan.traceFile.isSome && !plan.probe.readsTraceFile) = true :=
    run_invalid_iff runner plan session
  refine ⟨fun _ _ _ _ => Probe.kind_of_extract, judge_ne_fatal plan, ?_, ?_, ?_,
    run_io_iff runner plan session, haccounts.series⟩
  · rcases hend.kind_cases with hok | ⟨failure, hfailure, ⟨hkind, -⟩ | hkind | hkind⟩
    · exact Or.inl hok
    · exact Or.inr (Or.inl ⟨failure, hfailure, hkind⟩)
    · exact Or.inr (Or.inr (Or.inl ⟨failure, hfailure, hkind⟩))
    · exact Or.inr (Or.inr (Or.inr ⟨failure, hfailure, hkind⟩))
  · rw [hrefused, refuses_iff, Probe.readsTraceFile_eq_false_iff]
  · intro h
    have hrun := run_of_refused runner plan session (hrefused.1 h)
    exact ⟨transcript_of_refused runner plan session (hrefused.1 h), congrArg Prod.snd hrun⟩

/-- The first of three runs leaves a directory in place of its trace. Its sample is excluded, and the
second is not taken, since the directory cannot be removed. -/
theorem run_stopped_by_directory :
    let blocked : Files := Files.put {} ["t"] (.directory FileNode.programPermissions)
    let runner : Runner Nat :=
      { run := fun _ _ _ turn => ({ succeeded := true }, blocked, turn + 1) }
    let plan : SamplingPlan :=
      { probe := .allocation, command := { program := "app" }, reps := 3, traceFile := some "t" }
    let session : Session Nat := { files := {}, runnerState := 0, progress := { isTerminal := true } }
    let final := (run runner plan session).2
    (run runner plan session).1 = .error { kind := .io, detail := FileFault.isADirectory.message } ∧
      (transcript runner plan session).length < 3 ∧ final.runnerState = 1 ∧
      final.series.usable = 0 ∧ final.series.excluded = 1 ∧
      takeSamples runner plan (transcript runner plan session).length 0 session = (.ok (), final) := by
  intro blocked runner plan session final
  have hsteps : "t".splitOn "/" = ["t"] := by
    rw [String.splitOn, if_neg (by decide), String.splitOnAux, if_neg (by decide +kernel),
      if_neg (by decide +kernel), String.splitOnAux, if_pos (by decide +kernel)]
    decide +kernel
  have hlocate : ∀ (files : Files) (followsLast : Bool), files.locate followsLast [] "t" =
      files.follow followsLast Files.maxLinks [] ["t"] := by
    intro files followsLast
    rw [Files.locate, if_neg (by decide +kernel), if_neg (by simp), if_neg (by decide +kernel),
      Files.stepsFrom, hsteps, if_neg (by decide +kernel)]
  have hclear : clearTrace plan session.files = .ok {} := by
    simp only [clearTrace, plan, Files.remove, hlocate]
    rfl
  have hfault : clearTrace plan blocked = .error .isADirectory := by
    simp only [clearTrace, plan, Files.remove, hlocate]
    rfl
  have hread : blocked.readText "t" = .error .isADirectory := by
    rw [Files.readText, hlocate]
    rfl
  have hrun : run runner plan session =
      (.error { kind := .io, detail := FileFault.isADirectory.message },
        enter plan 0 session (invoke runner plan {} 0).1 1) := by
    refine ((run_eq_io_error_iff runner plan).2 ⟨by decide, ?_⟩).1
    change takeSamples runner plan 3 0 session = _
    rw [takeSamples, takeSample_of_cleared runner plan hclear]
    dsimp only
    rw [takeSamples, takeSample_of_fault runner plan hfault]
    rfl
  have hexcluded : (invoke runner plan {} 0).1.entry plan = .exclude := by
    simp only [Invocation.entry, Invocation.verdict, judge, traceText, invoke, runner, plan, hread]
    rfl
  have hseries : final.series = SeriesSet.empty.exclude := by
    change (run runner plan session).2.series = _
    rw [hrun]
    change (SeriesSet.empty.replay [(invoke runner plan {} 0).1.entry plan]).2 = _
    rw [hexcluded]
    rfl
  obtain ⟨-, -, -, -, -, hio, -⟩ := run_stopped_only_by_trace_file runner plan session
  obtain ⟨_, _, -, -, -, hlt, htaken, -⟩ := (hio _).1 ⟨congrArg Prod.fst hrun, rfl⟩
  refine ⟨congrArg Prod.fst hrun, hlt, ?_, by rw [hseries]; rfl, by rw [hseries]; rfl, htaken⟩
  exact congrArg (fun outcome => outcome.2.runnerState) hrun

end Sampling

end RunMeter
