import RunMeter.Proofs.Series.Grouping

/-!
# How a set of series grows

Whatever a set of series holds, more calls only add to it. The series that are there stay where they
are, and values are appended to them (`Series.Extends`). Exclusions leave nothing but their number:
a run of calls makes the same of the set as its samples alone, recorded one after another
(`SeriesSet.replay_eq_recordAll`), so that calls with the same samples differ in that number only.
-/

set_option autoImplicit false

namespace RunMeter

namespace Series

/-- Each series of a list is in another one, at the same place and with values added at its end. -/
def Extends (before after : List Series) : Prop :=
  ∀ (i : Nat) (series : Series), before[i]? = some series →
    ∃ more, after[i]? = some { series with values := series.values ++ more }

theorem Extends.refl (series : List Series) : Extends series series := by
  intro i s hs
  exact ⟨[], by rw [hs, List.append_nil]⟩

theorem Extends.trans {first second third : List Series} (h : Extends first second)
    (h' : Extends second third) : Extends first third := by
  intro i s hs
  obtain ⟨more, hmore⟩ := h i s hs
  obtain ⟨rest, hrest⟩ := h' i _ hmore
  exact ⟨more ++ rest, by rw [hrest, List.append_assoc]⟩

/-- One more value extends a series, or is a new series at the end. -/
theorem extends_add (key : MetricKey) (value : Float) (series : List Series) :
    Extends series (add key value series) := by
  induction series with
  | nil =>
    intro i s hs
    cases hs
  | cons first rest ih =>
    intro i s hs
    rw [add]
    split
    · cases i with
      | zero =>
        cases hs
        exact ⟨[value], rfl⟩
      | succ i => exact Extends.refl rest i s hs
    · cases i with
      | zero => exact Extends.refl (first :: rest) 0 s hs
      | succ i => exact ih i s hs

theorem extends_foldl_add (values : List (MetricKey × Float)) (series : List Series) :
    Extends series (values.foldl (fun series (key, value) => add key value series) series) := by
  induction values generalizing series with
  | nil => exact Extends.refl series
  | cons pair values ih =>
    rw [List.foldl_cons]
    exact (extends_add pair.1 pair.2 series).trans (ih _)

end Series

namespace SeriesSet

/-! ## Calls one after another -/

theorem replay_record (set : SeriesSet) (values : List (MetricKey × Float))
    (calls : List SeriesCall) :
    set.replay (.record values :: calls) =
      ((set.record values).1 :: ((set.record values).2.replay calls).1,
        ((set.record values).2.replay calls).2) := rfl

theorem replay_exclude (set : SeriesSet) (calls : List SeriesCall) :
    set.replay (.exclude :: calls) = set.exclude.replay calls := rfl

/-- The first call of a run is made by itself. -/
theorem replay_cons (set : SeriesSet) (call : SeriesCall) (calls : List SeriesCall) :
    (set.replay (call :: calls)).2 = ((set.replay [call]).2.replay calls).2 := by
  cases call with
  | record values => rfl
  | exclude => rfl

/-! ## Samples without exclusions -/

/-- The set after samples are recorded one after another. -/
def recordAll (set : SeriesSet) (samples : List (List (MetricKey × Float))) : SeriesSet :=
  samples.foldl (fun set values => (set.record values).2) set

/-- Recording samples neither reads nor changes the number of exclusions. -/
theorem recordAll_excluded (set : SeriesSet) (samples : List (List (MetricKey × Float)))
    (excluded : Nat) :
    recordAll { set with excluded } samples = { recordAll set samples with excluded } := by
  induction samples generalizing set with
  | nil => rfl
  | cons values samples ih => exact ih (set.record values).2

theorem usable_recordAll (set : SeriesSet) (samples : List (List (MetricKey × Float))) :
    (recordAll set samples).usable = set.usable + samples.length := by
  induction samples generalizing set with
  | nil => rfl
  | cons values samples ih =>
    have hrest := ih (set.record values).2
    have hone : (set.record values).2.usable = set.usable + 1 := rfl
    rw [hone] at hrest
    rw [List.length_cons]
    change (recordAll (set.record values).2 samples).usable = _
    omega

theorem extends_recordAll (set : SeriesSet) (samples : List (List (MetricKey × Float))) :
    Series.Extends set.series (recordAll set samples).series := by
  induction samples generalizing set with
  | nil => exact Series.Extends.refl set.series
  | cons values samples ih =>
    exact (Series.extends_foldl_add values set.series).trans (ih (set.record values).2)

/-- Samples with one value each, all under the same key, make up one series. -/
theorem series_recordAll_of_single {key : MetricKey} {set : SeriesSet} {before : List Float}
    (hset : set.series = [{ key, values := before }]) {samples : List (List (MetricKey × Float))}
    (h : ∀ values ∈ samples, ∃ x, values = [(key, x)]) :
    ∃ more, more.length = samples.length ∧
      (recordAll set samples).series = [{ key, values := before ++ more }] := by
  induction samples generalizing set before with
  | nil => exact ⟨[], rfl, by rw [List.append_nil]; exact hset⟩
  | cons values samples ih =>
    rw [List.forall_mem_cons] at h
    obtain ⟨⟨x, rfl⟩, hrest⟩ := h
    have hnext : (set.record [(key, x)]).2.series = [{ key, values := before ++ [x] }] := by
      change Series.add key x set.series = _
      rw [hset, Series.add, if_pos rfl]
    obtain ⟨more, hlength, hseries⟩ := ih hnext hrest
    refine ⟨x :: more, congrArg (· + 1) hlength, ?_⟩
    rw [List.append_cons]
    exact hseries

/-- A run of calls records its samples, and beside that it counts its exclusions. -/
theorem replay_eq_recordAll (set : SeriesSet) (calls : List SeriesCall) :
    (set.replay calls).2 =
      { recordAll set (calls.filterMap SeriesCall.values?) with
        excluded := set.excluded + calls.countP fun call => call.values?.isNone } := by
  induction calls generalizing set with
  | nil => rfl
  | cons call calls ih =>
    cases call with
    | record values =>
      rw [replay_record]
      exact ih (set.record values).2
    | exclude =>
      have hsamples : recordAll set.exclude (calls.filterMap SeriesCall.values?) =
          { recordAll set (calls.filterMap SeriesCall.values?) with
            excluded := set.excluded + 1 } := recordAll_excluded set _ (set.excluded + 1)
      have hcount : set.exclude.excluded + (calls.countP fun call => call.values?.isNone) =
          set.excluded + ((SeriesCall.exclude :: calls).countP fun call => call.values?.isNone) := by
        rw [List.countP_cons_of_pos rfl, Nat.add_comm _ 1, ← Nat.add_assoc]
        rfl
      rw [replay_exclude, ih, hsamples, hcount]
      rfl

/-- Runs of calls with the same samples lead to the same set, up to the number of exclusions. -/
theorem replay_congr (set : SeriesSet) {calls others : List SeriesCall}
    (h : calls.filterMap SeriesCall.values? = others.filterMap SeriesCall.values?) :
    (set.replay calls).2 =
      { (set.replay others).2 with excluded := (set.replay calls).2.excluded } := by
  rw [replay_eq_recordAll, replay_eq_recordAll, h]

/-- Every call is counted as one sample, usable or excluded. -/
theorem usable_add_excluded_replay (set : SeriesSet) (calls : List SeriesCall) :
    (set.replay calls).2.usable + (set.replay calls).2.excluded =
      set.usable + set.excluded + calls.length := by
  have hsplit := List.length_eq_countP_add_countP (l := calls) fun call => call.values?.isSome
  have hother : (fun call : SeriesCall => decide ¬ call.values?.isSome = true) =
      fun call => call.values?.isNone := by
    funext call
    cases call with
    | record values => rfl
    | exclude => rfl
  rw [hother] at hsplit
  rw [replay_eq_recordAll]
  simp only [usable_recordAll, List.length_filterMap_eq_countP]
  omega

/-- The samples of a run of calls are counted as usable, beside those from before. -/
theorem usable_replay (set : SeriesSet) (calls : List SeriesCall) :
    (set.replay calls).2.usable =
      set.usable + calls.countP fun call => call.values?.isSome := by
  rw [replay_eq_recordAll]
  dsimp only
  rw [usable_recordAll, List.length_filterMap_eq_countP]

/-- The series that are there stay where they are, and values are appended to them. -/
theorem extends_replay (set : SeriesSet) (calls : List SeriesCall) :
    Series.Extends set.series (set.replay calls).2.series := by
  rw [replay_eq_recordAll]
  exact extends_recordAll set _

end SeriesSet

end RunMeter
