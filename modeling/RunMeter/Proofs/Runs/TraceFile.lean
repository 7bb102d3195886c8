import RunMeter.Proofs.Files.Removal
import RunMeter.Proofs.Runs.Transcript

/-!
# Samples that are read from a trace file

A trace file is removed before every run, so no run finds one (`Sampling.node_of_cleared`), and what
a sample is read from afterwards can only have been written by its own run: a sample is recorded just
if its run succeeded and left a text, and its values are those of the text
(`Sampling.entry_eq_record_iff`).

What lay at the end of the name before the first run is therefore never seen. Once it is removed, a
session is the same as any other that differs from it there only (`Sampling.run_of_same_clearing`),
and as the argument is the same for a runner that keeps a record, the calls are the same as well.
`Sampling.run_reads_own_traces` puts the two together.
-/

set_option autoImplicit false

namespace RunMeter

variable {σ : Type}

/-- A probe that can read a trace file reads nothing of the sample but its duration. -/
theorem Probe.extract_congr {probe : Probe} (hprobe : probe.readsTraceFile = true)
    {sample other : Sample} (helapsed : other.elapsed = sample.elapsed) (trace : String) :
    probe.extract other trace = probe.extract sample trace := by
  cases probe with
  | allocation => rfl
  | phaseTiming =>
    unfold Probe.extract
    rw [helapsed]
  | maxRss platform => cases hprobe
  | instructions => cases hprobe

namespace Sampling

variable (runner : Runner σ) {plan : SamplingPlan} {name : String}

/-! ## What a sample is read from -/

theorem traceText_eq_ok_iff (htrace : plan.traceFile = some name) (sample : Sample) (files : Files)
    (text : String) : traceText plan sample files = .ok text ↔ files.readText name = .ok text := by
  rw [traceText, htrace]
  dsimp only
  split
  next found hread => rw [hread, Except.ok.injEq, Except.ok.injEq]
  next fault hread =>
    rw [hread]
    constructor
    · intro h
      cases h
    · intro h
      cases h

/-- With a trace file a sample is recorded just if its run succeeded and left a text there, with
the values of the text: nothing that the program has printed matters. -/
theorem entry_eq_record_iff (htrace : plan.traceFile = some name)
    (hprobe : plan.probe.readsTraceFile = true) (call : Invocation)
    (values : List (MetricKey × Float)) :
    call.entry plan = .record values ↔
      call.sample.succeeded = true ∧ ∃ text, call.left.readText name = .ok text ∧
        ∀ sample : Sample, sample.elapsed = call.sample.elapsed →
          plan.probe.extract sample text = .ok values := by
  rw [Invocation.entry_eq_record_iff_verdict, Invocation.verdict, judge_eq_usable_iff]
  refine and_congr_right fun _ => exists_congr fun text => ?_
  rw [traceText_eq_ok_iff htrace]
  refine and_congr_right fun _ => ?_
  constructor
  · intro hextract sample helapsed
    rw [Probe.extract_congr hprobe helapsed, hextract]
  · intro hextract
    exact hextract call.sample rfl

/-! ## What a run finds -/

/-- No run finds a trace file. -/
theorem node_of_cleared (htrace : plan.traceFile = some name) {files found : Files}
    (hclear : clearTrace plan files = .ok found) : found.node name = .error .notFound := by
  rw [clearTrace, htrace] at hclear
  dsimp only at hclear
  split at hclear
  next cleared hremove =>
    cases hclear
    exact Files.node_of_remove hremove
  next hremove =>
    cases hclear
    exact Files.node_of_remove_notFound hremove
  · cases hclear

/-- A file at the end of the name is removed, and the rest stays. -/
theorem clearTrace_of_bare (htrace : plan.traceFile = some name) {files : Files} {path : Path}
    (hlocate : files.locate false [] name = .ok path) (hfiles : files.IsBare path) :
    clearTrace plan files = .ok (files.erase path) := by
  rw [clearTrace, htrace]
  dsimp only
  rcases Files.remove_of_bare hlocate hfiles with hremove | ⟨hremove, hsame⟩
  · rw [hremove]
  · rw [hremove, hsame]

/-! ## Two sessions that differ in the trace file only -/

variable (plan)

/-- The files of a session are seen without the trace from before. -/
theorem takeSample_of_same_clearing (index : Nat) (session : Session σ) {files found : Files}
    (hsession : clearTrace plan session.files = .ok found)
    (hfiles : clearTrace plan files = .ok found) :
    takeSample runner plan index { session with files } = takeSample runner plan index session := by
  have hother : clearTrace plan { session with files }.files = .ok found := hfiles
  rw [takeSample_of_cleared runner plan hsession, takeSample_of_cleared runner plan hother]
  rfl

/-- Sessions that are the same once the trace from before is gone give the same. Only the files
that a run of no samples leaves are those that it was given. -/
theorem run_of_same_clearing (session : Session σ) {files found : Files}
    (hsession : clearTrace plan session.files = .ok found)
    (hfiles : clearTrace plan files = .ok found) :
    ∃ last, run runner plan { session with files } =
      ((run runner plan session).1, { (run runner plan session).2 with files := last }) := by
  by_cases hrefused : (plan.traceFile.isSome && !plan.probe.readsTraceFile) = true
  · exact ⟨files, by rw [run, run, if_pos hrefused, if_pos hrefused]⟩
  cases hreps : plan.reps with
  | zero =>
    refine ⟨files, ?_⟩
    rw [run, run, if_neg hrefused, if_neg hrefused, hreps]
    simp only [takeSamples]
    split
    · rfl
    · rfl
  | succ reps =>
    refine ⟨(run runner plan session).2.files, ?_⟩
    have hsame : run runner plan { session with files } = run runner plan session := by
      rw [run, run, if_neg hrefused, if_neg hrefused, hreps, takeSamples, takeSamples,
        takeSample_of_same_clearing runner plan 0 session hsession hfiles]
    exact hsame

/-- Samples that are read from a trace file, for as many runs as there are and whatever the runner
does to the file or leaves of it. No run finds the file. What is entered for a run are the values of
the text that the run itself has left there, if it succeeded and left one; nothing that the program
has printed and nothing that was there before matters. Whether there was nothing or a file at the end
of the name before the first run makes no difference to what is returned, to the series, to the log
or to a call of the runner. -/
theorem run_reads_own_traces {name : String} (htrace : plan.traceFile = some name)
    (hprobe : plan.probe.readsTraceFile = true) (session : Session σ) :
    let outcome := run runner plan session
    let calls := transcript runner plan session
    (∀ call ∈ calls, call.found.node name = .error .notFound) ∧
    outcome.2.series = (session.series.replay (calls.map (Invocation.entry plan))).2 ∧
    (∀ call ∈ calls, ∀ values, call.entry plan = .record values ↔
      call.sample.succeeded = true ∧ ∃ text, call.left.readText name = .ok text ∧
        ∀ sample : Sample, sample.elapsed = call.sample.elapsed →
          plan.probe.extract sample text = .ok values) ∧
    ∀ (path : Path) (files : Files), session.files.locate false [] name = .ok path →
      session.files.IsBare path → files.IsBare path →
      files.erase path = session.files.erase path →
      let other := { session with files }
      (run runner plan other).1 = outcome.1 ∧
        (run runner plan other).2.series = outcome.2.series ∧
        (run runner plan other).2.runnerState = outcome.2.runnerState ∧
        (run runner plan other).2.progress = outcome.2.progress ∧
        (run runner plan other).2.log = outcome.2.log ∧
        transcript runner plan other = calls := by
  intro outcome calls
  have haccounts := (run_accounts runner plan session).1
  refine ⟨?_, haccounts.series, ?_, ?_⟩
  · intro call hcall
    obtain ⟨files, hclear⟩ := haccounts.cleared call hcall
    exact node_of_cleared htrace hclear
  · intro call _ values
    exact entry_eq_record_iff htrace hprobe call values
  · intro path files hlocate hsession hfiles herase other
    have hcleared := clearTrace_of_bare htrace hlocate hsession
    have hother : clearTrace plan files = .ok (session.files.erase path) := by
      rw [← herase]
      exact clearTrace_of_bare htrace (Files.locate_of_bare hlocate hsession hfiles herase) hfiles
    obtain ⟨last, hrun⟩ := run_of_same_clearing runner plan session hcleared hother
    obtain ⟨_, hrecord⟩ :=
      run_of_same_clearing runner.recording plan session.recorded hcleared hother
    have hcalls : transcript runner plan other = calls :=
      congrArg (fun outcome => outcome.2.runnerState.2) hrecord
    rw [hrun]
    exact ⟨rfl, rfl, rfl, rfl, rfl, hcalls⟩

/-- The first of three runs fails and leaves a trace all the same, the second writes another one, and
the last leaves none. Only the second is recorded, with what it has written. The session might as well
have begun with a trace from long before. -/
theorem run_reads_own_allocation_trace :
    let before : Files := { entries := [(["kept"], .ofContent "1".toUTF8 false)] }
    let after (trace : String) : Files := before.put ["t"] (.ofContent trace.toUTF8 false)
    let good : Sample := { stdout := "allocated 9", succeeded := true }
    let runner : Runner Nat :=
      { run := fun _ _ files turn =>
          match turn with
          | 0 => ({}, after "allocated 5", 1)
          | 1 => (good, after "allocated 2", 2)
          | _ => (good, files, 3) }
    let plan : SamplingPlan :=
      { probe := .allocation, command := { program := "app" }, reps := 3, traceFile := some "t" }
    let session : Session Nat :=
      { files := before, runnerState := 0, progress := { isTerminal := true } }
    let other := { session with files := after "allocated 7" }
    let calls := transcript runner plan session
    plan.traceFile = some "t" ∧ plan.probe.readsTraceFile = true ∧
      calls.map Invocation.sample = [{}, good, good] ∧
      calls.map Invocation.left = [after "allocated 5", after "allocated 2", before] ∧
      calls.map (Invocation.entry plan) =
        [.exclude, .record [(.scalar "allocated", (2 : UInt64).toFloat)], .exclude] ∧
      (∀ call ∈ calls, call.found.node "t" = .error .notFound) ∧
      (run runner plan other).2.series = (run runner plan session).2.series ∧
      transcript runner plan other = calls := by
  intro before after good runner plan session other calls
  have hsteps : "t".splitOn "/" = ["t"] := by
    rw [String.splitOn, if_neg (by decide), String.splitOnAux, if_neg (by decide +kernel),
      if_neg (by decide +kernel), String.splitOnAux, if_pos (by decide +kernel)]
    decide +kernel
  have hlocate : ∀ (files : Files) (followsLast : Bool), files.locate followsLast [] "t" =
      files.follow followsLast Files.maxLinks [] ["t"] := by
    intro files followsLast
    rw [Files.locate, if_neg (by decide +kernel), if_neg (by simp), if_neg (by decide +kernel),
      Files.stepsFrom, hsteps, if_neg (by decide +kernel)]
  have hclear : ∀ trace, clearTrace plan (after trace) = .ok before := fun trace =>
    clearTrace_of_bare rfl (hlocate (after trace) false) (Or.inr ⟨_, _, rfl⟩)
  have hbefore : clearTrace plan before = .ok before :=
    clearTrace_of_bare rfl (hlocate before false) (Or.inl rfl)
  have hcalls : calls =
      [⟨plan.command, none, before, {}, after "allocated 5"⟩,
        ⟨plan.command, none, before, good, after "allocated 2"⟩,
        ⟨plan.command, none, before, good, before⟩] := by
    have hthree : calls = (takeSamples runner.recording plan 3 0 session.recorded).2.runnerState.2 :=
      transcript_of_taken runner plan session (by decide)
    rw [hthree, takeSamples, takeSample_of_cleared _ _ hbefore]
    dsimp only
    rw [takeSamples, takeSample_of_cleared _ _ (hclear "allocated 5")]
    dsimp only
    rw [takeSamples, takeSample_of_cleared _ _ (hclear "allocated 2")]
    rfl
  obtain ⟨hfound, -, hrecorded, hother⟩ := run_reads_own_traces runner plan rfl rfl session
  obtain ⟨-, hseries, -, -, -, hsame⟩ := hother ["t"] (after "allocated 7") (hlocate before false)
    (Or.inl rfl) (Or.inr ⟨_, _, rfl⟩) rfl
  have hsecond : Invocation.entry plan ⟨plan.command, none, before, good, after "allocated 2"⟩ =
      .record [(.scalar "allocated", (2 : UInt64).toFloat)] := by
    have htotal : Allocation.total "allocated 2".toList = 2 := by decide +kernel
    have hmem : ⟨plan.command, none, before, good, after "allocated 2"⟩ ∈ calls := by
      rw [hcalls]
      exact List.mem_cons_of_mem _ List.mem_cons_self
    refine (hrecorded _ hmem _).2 ⟨rfl, "allocated 2", ?_, fun _ _ => ?_⟩
    · rw [Files.readText, hlocate]
      decide +kernel
    · rw [← htotal]
      rfl
  have hthird : Invocation.entry plan ⟨plan.command, none, before, good, before⟩ = .exclude := by
    have hread : before.readText "t" = .error .notFound := by
      rw [Files.readText, hlocate]
      rfl
    simp only [Invocation.entry, Invocation.verdict, judge, traceText, plan, hread]
    rfl
  refine ⟨rfl, rfl, by rw [hcalls]; rfl, by rw [hcalls]; rfl, ?_, hfound, hseries, hsame⟩
  rw [hcalls, List.map_cons, List.map_cons, List.map_cons, List.map_nil, hsecond, hthird]
  rfl

end Sampling

end RunMeter
