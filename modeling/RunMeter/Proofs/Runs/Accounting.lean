import RunMeter.Proofs.Runs.Transcript

/-!
# Every run is accounted for

Each call of the runner is one sample, and each sample is usable or excluded: the two counters grow
by the number of calls. What is not as it should be leaves one note, an excluded sample that it is
excluded and a usable one that its keys are not the expected ones, in the order of the runs
(`Sampling.mem_notes`, `Sampling.map_index_notes_sublist`).

Without a trace file the verdict on a sample depends on the sample alone. Excluded samples then
change nothing but their number: a run over a script from which some of them are struck out leaves
the same series (`Sampling.run_scripted_of_deleted`). `Sampling.run_accounts_for_calls` puts all of
this together.
-/

set_option autoImplicit false

namespace RunMeter

variable {σ : Type}

namespace Sampling

variable (plan : SamplingPlan)

/-! ## Notes -/

/-- The notes of one sample: one if it is excluded or its keys are not the expected ones. -/
theorem notes_cases (call : Invocation) (index : Nat) (set : SeriesSet) :
    (∃ reason, call.verdict plan = .excluded reason ∧ call.entry plan = .exclude ∧
        call.notes plan index set = [.excluded index reason]) ∨
      ∃ values, call.verdict plan = .usable values ∧ call.entry plan = .record values ∧
        call.notes plan index set =
          if set.isConsistent (values.map (·.1)) then [] else [.inconsistent index] := by
  cases hverdict : call.verdict plan with
  | usable values =>
    right
    exact ⟨values, rfl, congrArg Verdict.entry hverdict, by rw [Invocation.notes, hverdict]⟩
  | excluded reason =>
    left
    exact ⟨reason, rfl, congrArg Verdict.entry hverdict, by rw [Invocation.notes, hverdict]⟩
  | fatal failure => exact absurd hverdict (judge_ne_fatal plan call.sample call.left failure)

/-- A sample is noted as excluded exactly if that is the verdict on it. -/
theorem excluded_mem_notes_iff (call : Invocation) (index i : Nat) (set : SeriesSet)
    (reason : String) :
    .excluded i reason ∈ call.notes plan index set ↔
      i = index ∧ call.verdict plan = .excluded reason := by
  rcases notes_cases plan call index set with
    ⟨other, hverdict, -, hnotes⟩ | ⟨values, hverdict, -, hnotes⟩
  · rw [hnotes, hverdict, List.mem_singleton, SampleNote.excluded.injEq, Verdict.excluded.injEq,
      eq_comm (a := other)]
  · rw [hnotes, hverdict]
    split
    · simp
    · simp

/-- A sample is noted as inconsistent exactly if it is usable and its keys are not the expected
ones. -/
theorem inconsistent_mem_notes_iff (call : Invocation) (index i : Nat) (set : SeriesSet) :
    .inconsistent i ∈ call.notes plan index set ↔
      i = index ∧ ∃ values, call.verdict plan = .usable values ∧
        set.isConsistent (values.map Prod.fst) = false := by
  rcases notes_cases plan call index set with
    ⟨reason, hverdict, -, hnotes⟩ | ⟨values, hverdict, -, hnotes⟩
  · rw [hnotes, hverdict]
    simp
  · rw [hnotes, hverdict]
    cases hconsistent : set.isConsistent (values.map Prod.fst) with
    | false => simp [hconsistent]
    | true => simp [hconsistent]

/-- The notes of a row of samples are those of each of them, by the series that it is entered into. -/
theorem mem_notes (index : Nat) (set : SeriesSet) (calls : List Invocation) (note : SampleNote) :
    note ∈ notes plan index set calls ↔
      ∃ (i : Nat) (call : Invocation), calls[i]? = some call ∧
        note ∈ call.notes plan (index + i)
          (set.replay ((calls.take i).map (Invocation.entry plan))).2 := by
  induction calls generalizing index set with
  | nil => simp [notes]
  | cons first calls ih =>
    rw [notes, List.mem_append, ih]
    constructor
    · rintro (hfirst | ⟨i, call, hcall, hnote⟩)
      · exact ⟨0, first, rfl, hfirst⟩
      · refine ⟨i + 1, call, hcall, ?_⟩
        rw [List.take_succ_cons, List.map_cons, SeriesSet.replay_cons, ← Nat.add_assoc,
          Nat.add_right_comm]
        exact hnote
    · rintro ⟨i, call, hcall, hnote⟩
      cases i with
      | zero =>
        cases hcall
        exact Or.inl hnote
      | succ i =>
        rw [List.take_succ_cons, List.map_cons, SeriesSet.replay_cons, ← Nat.add_assoc,
          Nat.add_right_comm] at hnote
        exact Or.inr ⟨i, call, hcall, hnote⟩

/-- A sample leaves one note at most, and the notes stand in the order of the samples. -/
theorem map_index_notes_sublist (index : Nat) (set : SeriesSet) (calls : List Invocation) :
    ((notes plan index set calls).map SampleNote.index).Sublist
      (List.range' index calls.length) := by
  induction calls generalizing index set with
  | nil => exact List.Sublist.slnil
  | cons call calls ih =>
    have hrest := ih (index + 1) (set.replay [call.entry plan]).2
    rw [notes, List.map_append, List.length_cons, List.range'_succ]
    rcases notes_cases plan call index set with ⟨reason, -, -, hnotes⟩ | ⟨values, -, -, hnotes⟩
    · rw [hnotes]
      exact hrest.cons_cons index
    · rw [hnotes]
      split
      · exact hrest.cons index
      · exact hrest.cons_cons index

/-- Exclusions and samples with other keys are counted note by note. -/
theorem counts_notes (index : Nat) (set : SeriesSet) (calls : List Invocation) :
    (set.replay (calls.map (Invocation.entry plan))).2.excluded =
        set.excluded + (notes plan index set calls).countP SampleNote.isExclusion ∧
      (set.replay (calls.map (Invocation.entry plan))).2.inconsistent =
        set.inconsistent +
          (notes plan index set calls).countP fun note => !note.isExclusion := by
  induction calls generalizing index set with
  | nil => exact ⟨rfl, rfl⟩
  | cons call calls ih =>
    obtain ⟨hexcluded, hinconsistent⟩ := ih (index + 1) (set.replay [call.entry plan]).2
    rw [List.map_cons, SeriesSet.replay_cons, hexcluded, hinconsistent, notes, List.countP_append,
      List.countP_append, ← Nat.add_assoc, ← Nat.add_assoc]
    rcases notes_cases plan call index set with
      ⟨reason, -, hentry, hnotes⟩ | ⟨values, -, hentry, hnotes⟩
    · rw [hentry, hnotes]
      exact ⟨rfl, rfl⟩
    · rw [hentry, hnotes]
      have hcount : (set.replay [.record values]).2.inconsistent =
          set.inconsistent + if set.isConsistent (values.map (·.1)) then 0 else 1 := rfl
      rw [hcount]
      split
      · exact ⟨rfl, rfl⟩
      · exact ⟨rfl, rfl⟩

end Sampling

/-! ## Scripts -/

/-- A list without the elements at some places. -/
def strikeOut {α : Type} (deleted : Nat → Bool) (xs : List α) : List α :=
  (xs.zipIdx.filter fun p => !deleted p.2).map Prod.fst

section StrikeOut

variable {α β : Type} (deleted : Nat → Bool)

/-- As many elements are missing as there are places struck out. -/
theorem length_strikeOut (xs : List α) :
    (strikeOut deleted xs).length = xs.length - (List.range xs.length).countP deleted := by
  have hsplit := List.length_eq_countP_add_countP (l := xs.zipIdx) fun p => !deleted p.2
  have hother : (fun p : α × Nat => decide ¬ (!deleted p.2) = true) = deleted ∘ Prod.snd := by
    funext p
    simp
  rw [hother, ← List.countP_map, List.zipIdx_map_snd, ← List.range_eq_range',
    List.length_zipIdx] at hsplit
  rw [strikeOut, List.length_map, ← List.countP_eq_length_filter]
  omega

theorem map_strikeOut (f : α → β) (xs : List α) :
    strikeOut deleted (xs.map f) = (strikeOut deleted xs).map f := by
  rw [strikeOut, strikeOut, List.zipIdx_map, List.filter_map, List.map_map, List.map_map]
  rfl

/-- Elements that have no image may be struck out before the images are taken. -/
theorem filterMap_strikeOut (f : α → Option β) (xs : List α)
    (h : ∀ (i : Nat) (x : α), xs[i]? = some x → deleted i = true → f x = none) :
    (strikeOut deleted xs).filterMap f = xs.filterMap f := by
  -- The first place is generalized, since the rest of a list begins at the next one.
  have hfrom : ∀ (start : Nat), (∀ (i : Nat) (x : α), xs[i]? = some x →
      deleted (start + i) = true → f x = none) →
      (((xs.zipIdx start).filter fun p => !deleted p.2).map Prod.fst).filterMap f =
        xs.filterMap f := by
    clear h
    induction xs with
    | nil => exact fun _ _ => rfl
    | cons x xs ih =>
      intro start h
      have hrest := ih (start + 1) fun i y hy hdeleted =>
        h (i + 1) y hy (by rwa [← Nat.add_assoc, Nat.add_right_comm])
      rw [List.zipIdx_cons]
      cases hx : deleted start with
      | false =>
        rw [List.filter_cons_of_pos (by simp [hx]), List.map_cons, List.filterMap_cons,
          List.filterMap_cons, hrest]
      | true =>
        rw [List.filter_cons_of_neg (by simp [hx]), hrest,
          List.filterMap_cons_none (h 0 x rfl hx)]
  exact hfrom 0 fun i x hx => by rw [Nat.zero_add]; exact h i x hx

end StrikeOut

namespace Sampling

variable (runner : Runner σ) (plan : SamplingPlan)

/-- Without a trace file the verdict depends on the sample alone. -/
theorem judge_congr (htrace : plan.traceFile = none) (sample : Sample) (files others : Files) :
    judge plan sample files = judge plan sample others := by
  unfold judge traceText
  rw [htrace]

/-- A row of samples from a script takes them in their order. -/
theorem takeSamples_scripted (htrace : plan.traceFile = none) (remaining index : Nat)
    (session : Session (List Sample × List Invocation))
    (hlong : remaining ≤ session.runnerState.1.length) :
    (takeSamples Runner.scripted.recording plan remaining index session).2.runnerState.2.map
        Invocation.sample =
      session.runnerState.2.map Invocation.sample ++ session.runnerState.1.take remaining := by
  induction remaining generalizing index session with
  | zero => exact (List.append_nil _).symm
  | succ remaining ih =>
    have hclear : clearTrace plan session.files = .ok session.files := by rw [clearTrace, htrace]
    obtain ⟨files, ⟨script, record⟩, series, progress, log⟩ := session
    cases script with
    | nil => cases hlong
    | cons sample script =>
      rw [takeSamples, takeSample_of_cleared _ _ hclear]
      dsimp only
      rw [ih _ _ (Nat.le_of_succ_le_succ hlong)]
      simp [enter, invoke, Runner.recording, Runner.scripted]

theorem transcript_scripted (htrace : plan.traceFile = none) (session : Session (List Sample))
    (hlength : plan.reps = session.runnerState.length) :
    (transcript Runner.scripted plan session).map Invocation.sample = session.runnerState := by
  have htaken : ¬ (plan.traceFile.isSome && !plan.probe.readsTraceFile) = true := by
    rw [htrace]
    exact Bool.false_ne_true
  rw [transcript_of_taken _ _ _ htaken,
    takeSamples_scripted plan htrace plan.reps 0 session.recorded (Nat.le_of_eq hlength), hlength]
  exact List.take_length

/-- Without a trace file what is entered for a call depends on its sample alone. -/
theorem exists_entry_eq (htrace : plan.traceFile = none) :
    ∃ entryOf : Sample → SeriesCall, ∀ call : Invocation, call.entry plan = entryOf call.sample := by
  refine ⟨fun sample => (judge plan sample {}).entry, ?_⟩
  intro call
  exact congrArg Verdict.entry (judge_congr plan htrace call.sample call.left {})

/-- Excluded samples change nothing but their number. Over the script of a run, from which some
excluded samples are struck out, as many fewer samples lead to the same series. -/
theorem run_scripted_of_deleted (htrace : plan.traceFile = none) (session : Session σ)
    (deleted : Nat → Bool)
    (hexcluded : ∀ (i : Nat) (call : Invocation), (transcript runner plan session)[i]? = some call →
      deleted i = true → ∃ reason, call.verdict plan = .excluded reason)
    (other : Session (List Sample)) (hseries : other.series = session.series)
    (hscript : other.runnerState =
      strikeOut deleted ((transcript runner plan session).map Invocation.sample)) :
    ∃ excluded,
      (run Runner.scripted { plan with reps := other.runnerState.length } other).2.series =
        { (run runner plan session).2.series with excluded } := by
  set fewer : SamplingPlan := { plan with reps := other.runnerState.length } with hfewer
  set calls := transcript runner plan session with hcalls
  set others := transcript Runner.scripted fewer other with hothers
  have hsamples : others.map Invocation.sample =
      strikeOut deleted (calls.map Invocation.sample) := by
    rw [hothers, transcript_scripted fewer htrace other rfl, hscript]
  obtain ⟨entryOf, hentry⟩ := exists_entry_eq plan htrace
  have hentries : others.map (Invocation.entry fewer) =
      strikeOut deleted (calls.map (Invocation.entry plan)) := by
    have hsame : Invocation.entry fewer = entryOf ∘ Invocation.sample := funext hentry
    have hplan : Invocation.entry plan = entryOf ∘ Invocation.sample := funext hentry
    rw [hsame, hplan, ← List.map_map, ← List.map_map, hsamples, ← map_strikeOut]
  have hvalues : (others.map (Invocation.entry fewer)).filterMap SeriesCall.values? =
      (calls.map (Invocation.entry plan)).filterMap SeriesCall.values? := by
    rw [hentries]
    apply filterMap_strikeOut
    intro i entry hi hdeleted
    rw [List.getElem?_map, Option.map_eq_some_iff] at hi
    obtain ⟨call, hcall, rfl⟩ := hi
    obtain ⟨reason, hverdict⟩ := hexcluded i call hcall hdeleted
    rw [Invocation.entry, hverdict]
    rfl
  rw [(run_accounts runner plan session).1.series, (run_accounts Runner.scripted fewer other).1.series,
    hseries]
  exact ⟨_, SeriesSet.replay_congr session.series hvalues⟩

/-- What a sampling run makes of its session, whatever its runner does and however it ends. Every
call of the runner is one sample more, usable or excluded, and all calls are the same; a run that is
complete has made all of them. The series that were there stay where they were, and values are
appended to them. In the log there is one more line for each excluded sample and for each sample
with other keys than the first one, in the order of the runs: a warning, which says which sample it
is and why it is excluded, or whose keys differ. Without a trace file, the runs whose samples are
excluded can be struck out of the script: the rest of it leads to the same series. -/
theorem run_accounts_for_calls (runner : Runner σ) (plan : SamplingPlan) (session : Session σ) :
    let result := (run runner plan session).1
    let start := session.series
    let final := (run runner plan session).2.series
    let calls := transcript runner plan session
    let notes := notes plan 0 start calls
    let entered := fun i => (start.replay ((calls.take i).map (Invocation.entry plan))).2
    final.usable + final.excluded = start.usable + start.excluded + calls.length ∧
    (∀ call ∈ calls, call.command = plan.probe.prepare plan.command ∧ call.timeout = plan.timeout) ∧
    ((result = .ok () ∨ ∃ failure, result = .error failure ∧ failure.kind = .noUsableSamples) →
      calls.length = plan.reps) ∧
    (∀ (i : Nat) (series : Series), start.series[i]? = some series →
      ∃ more, final.series[i]? = some { series with values := series.values ++ more }) ∧
    ((run runner plan session).2.log = session.log ++ notes.map (SampleNote.line plan) ∧
      (∀ i reason, (SampleNote.excluded i reason).line plan =
        { level := .warning
          text := "sample " ++ toString i ++ " excluded: " ++ reason }) ∧
      (∀ i, (SampleNote.inconsistent i).line plan =
        { level := .warning
          text := "sample " ++ toString i ++ " reported a different set of " ++ plan.probe.name ++
            " keys than the first sample" }) ∧
      (notes.map SampleNote.index).Sublist (List.range calls.length) ∧
      final.excluded = start.excluded + notes.countP SampleNote.isExclusion ∧
      final.inconsistent = start.inconsistent + (notes.countP fun note => !note.isExclusion) ∧
      (∀ i reason, .excluded i reason ∈ notes ↔
        ∃ call, calls[i]? = some call ∧ call.verdict plan = .excluded reason) ∧
      ∀ i, .inconsistent i ∈ notes ↔
        ∃ call values, calls[i]? = some call ∧ call.verdict plan = .usable values ∧
          (entered i).isConsistent (values.map Prod.fst) = false) ∧
    (plan.traceFile = none → ∀ deleted : Nat → Bool,
      (∀ (i : Nat) (call : Invocation), calls[i]? = some call → deleted i = true →
        ∃ reason, call.verdict plan = .excluded reason) →
      ∀ other : Session (List Sample), other.series = start →
        other.runnerState = strikeOut deleted (calls.map Invocation.sample) →
        let fewer := plan.reps - (List.range calls.length).countP deleted
        let last := (run Runner.scripted { plan with reps := fewer } other).2.series
        last.series = final.series ∧ last.usable = final.usable ∧
          last.inconsistent = final.inconsistent) := by
  intro result start final calls notes entered
  obtain ⟨haccounts, hend⟩ := run_accounts runner plan session
  have hfinal : final = (start.replay (calls.map (Invocation.entry plan))).2 := haccounts.series
  obtain ⟨hexcluded, hinconsistent⟩ := counts_notes plan 0 start calls
  rw [← hfinal] at hexcluded hinconsistent
  refine ⟨?_, fun call hcall => ⟨haccounts.command call hcall, haccounts.timeout call hcall⟩,
    hend.length_eq, ?_, ⟨haccounts.log, fun _ _ => rfl, fun _ => rfl, ?_, hexcluded, hinconsistent,
    ?_, ?_⟩, ?_⟩
  · rw [hfinal, SeriesSet.usable_add_excluded_replay, List.length_map]
  · rw [hfinal]
    exact SeriesSet.extends_replay start _
  · rw [List.range_eq_range']
    exact map_index_notes_sublist plan 0 start calls
  · intro i reason
    rw [mem_notes]
    constructor
    · rintro ⟨j, call, hcall, hnote⟩
      rw [excluded_mem_notes_iff, Nat.zero_add] at hnote
      exact ⟨call, hnote.1 ▸ hcall, hnote.2⟩
    · rintro ⟨call, hcall, hverdict⟩
      refine ⟨i, call, hcall, ?_⟩
      rw [excluded_mem_notes_iff, Nat.zero_add]
      exact ⟨rfl, hverdict⟩
  · intro i
    rw [mem_notes]
    constructor
    · rintro ⟨j, call, hcall, hnote⟩
      rw [inconsistent_mem_notes_iff, Nat.zero_add] at hnote
      obtain ⟨rfl, values, hverdict, hkeys⟩ := hnote
      exact ⟨call, values, hcall, hverdict, hkeys⟩
    · rintro ⟨call, values, hcall, hverdict, hkeys⟩
      refine ⟨i, call, hcall, ?_⟩
      rw [inconsistent_mem_notes_iff, Nat.zero_add]
      exact ⟨rfl, values, hverdict, hkeys⟩
  · intro htrace deleted hdeleted other hseries hscript fewer last
    have hfewer : other.runnerState.length = fewer := by
      rw [hscript, length_strikeOut, List.length_map]
      exact congrArg (· - _) (hend.length_eq_of_no_trace htrace)
    obtain ⟨excluded, hlast⟩ := run_scripted_of_deleted runner plan htrace session deleted hdeleted
      other hseries hscript
    rw [hfewer] at hlast
    change last = { final with excluded } at hlast
    rw [hlast]
    exact ⟨rfl, rfl, rfl⟩

/-- A run that failed and a broken trace are excluded, and the last of four samples has another
region than the second, so there are three warnings. Without the two excluded runs, two samples lead
to the same series. -/
theorem run_accounts_for_mixed_samples :
    let script : List Sample :=
      [{}, { stderr := "before-a 0.0\nafter-a 0.5\n", succeeded := true },
        { stderr := "after-a 1.0\n", succeeded := true },
        { stderr := "before-b 0.0\nafter-b 0.5\n", succeeded := true }]
    let plan : SamplingPlan := { probe := .phaseTiming, command := { program := "app" }, reps := 4 }
    let session : Session (List Sample) :=
      { files := {}, runnerState := script, progress := { isTerminal := true } }
    let final := (run Runner.scripted plan session).2.series
    let deleted := fun i => i == 0 || i == 2
    let other := { session with runnerState := strikeOut deleted script }
    let last := (run Runner.scripted { plan with reps := 2 } other).2.series
    plan.traceFile = none ∧ (transcript Runner.scripted plan session).length = 4 ∧
      final.usable = 2 ∧ final.excluded = 2 ∧ final.inconsistent = 1 ∧
      (run Runner.scripted plan session).2.log =
        [{ level := .warning, text := "sample 0 excluded: terminated by signal" },
          { level := .warning
            text := "sample 2 excluded: trace protocol violation: " ++
              "after-a at depth 0 without matching before-a" },
          { level := .warning
            text := "sample 3 reported a different set of time keys than the first sample" }] ∧
      final.series.map (fun series => series.key.name) = ["total", "a", "b"] ∧
      last.series = final.series ∧ last.usable = 2 ∧ last.inconsistent = 1 := by
  intro script plan session final deleted other last
  have hsamples : (transcript Runner.scripted plan session).map Invocation.sample = script :=
    transcript_scripted plan rfl session rfl
  have hlength : (transcript Runner.scripted plan session).length = 4 := by
    rw [← List.length_map, hsamples]
    rfl
  have hexclusions : (transcript Runner.scripted plan session).map
      (fun call => (call.entry plan).values?.isNone) = [true, false, true, false] := by
    decide +kernel
  have hdeleted : ∀ (i : Nat) (call : Invocation),
      (transcript Runner.scripted plan session)[i]? = some call → deleted i = true →
        ∃ reason, call.verdict plan = .excluded reason := by
    intro i call hcall hi
    have hnone : (call.entry plan).values?.isNone = true := by
      have hplace := congrArg (fun places => places[i]?) hexclusions
      simp only [List.getElem?_map, hcall, Option.map_some] at hplace
      rcases Bool.or_eq_true_iff.1 hi with hi | hi
      · rw [eq_of_beq hi] at hplace
        exact Option.some.inj hplace
      · rw [eq_of_beq hi] at hplace
        exact Option.some.inj hplace
    rcases notes_cases plan call i .empty with ⟨reason, hverdict, -, -⟩ | ⟨values, -, hentry, -⟩
    · exact ⟨reason, hverdict⟩
    · rw [hentry] at hnone
      cases hnone
  obtain ⟨-, -, -, -, -, hstruck⟩ := run_accounts_for_calls Runner.scripted plan session
  have hsame := hstruck rfl deleted hdeleted other rfl (by rw [hsamples])
  have hfewer : plan.reps - (List.range (transcript Runner.scripted plan session).length).countP
      deleted = 2 := by
    rw [hlength]
    rfl
  dsimp only at hsame
  rw [hfewer] at hsame
  obtain ⟨hseries, husable, hinconsistent⟩ := hsame
  have hcounts : final.usable = 2 ∧ final.excluded = 2 ∧ final.inconsistent = 1 := by decide +kernel
  refine ⟨rfl, hlength, hcounts.1, hcounts.2.1, hcounts.2.2, ?_, ?_, hseries,
    husable.trans hcounts.1, hinconsistent.trans hcounts.2.2⟩
  · decide +kernel
  · decide +kernel

end Sampling

end RunMeter
