import RunMeter.Proofs.Bound.Course

/-!
# When a search stops

A search whose largest bound is below the largest word stops on all outcomes. It has then made at
most one trial at each coarse bound within reach and, at each bound from one to the largest, as many
as are required in a row. At the largest word the bound is never out of reach, so that a search
whose trials all fail goes on for ever (`loop_of_failures`). `stops_iff` says that this is the only
exception.
-/

set_option autoImplicit false

namespace RunMeter.Search

variable {σ : Type} {config : SearchConfig} {unit : String}

/-- At the largest word no number of rounds is enough for trials that all fail. -/
theorem loop_of_failures (hmax : ¬ config.maxBound.toNat < maxWord) (s : σ) (progress : Progress)
    (rounds : Nat) :
    (loop config unit (judge (fun _ => false) fun _ s => s) rounds
      (opening config s progress)).1 = none := by
  have hreach : ∀ k, config.coarseBound k ≤ config.maxBound := by
    intro k
    rw [UInt64.le_iff_toNat_le]
    exact Nat.le_trans (toNat_le_maxWord _) (Nat.le_of_not_lt hmax)
  obtain ⟨final, hstretch, -⟩ := coarse_stretch config unit (fun _ => false) (fun _ s => s)
    rounds 0 (opening config s progress) (SearchState.start_eq config)
    (fun k _ _ => hreach k) (fun _ _ _ => rfl)
  have hloop := loop_of_stretch hstretch 0
  rw [List.length_map, List.length_range', Nat.add_zero] at hloop
  rw [hloop]
  rfl

/-- A search below the largest word makes at most as many trials as there are coarse bounds within
reach, and as many as are required in a row for each bound. -/
theorem length_history_le (config : SearchConfig) (unit : String)
    (trial : UInt64 → σ → Bool × σ) (s : σ) (progress : Progress)
    (hmax : config.maxBound.toNat < maxWord) :
    (config.maxBound < atLeastOne config.initialBound →
      (history config unit trial s progress).length = 0) ∧
    (atLeastOne config.initialBound ≤ config.maxBound →
      (history config unit trial s progress).length ≤
        (config.maxBound.toNat - (atLeastOne config.initialBound).toNat) /
            (atLeastOne config.coarseStep).toNat + 1 +
          max config.confirmations 1 * config.maxBound.toNat) := by
  obtain ⟨verdict, hending, -, -⟩ := exists_ending config unit trial s progress hmax
  constructor
  · intro hexceeded
    rw [← config.coarseBound_zero] at hexceeded
    exact hending.length_eq_zero hexceeded
  · intro hreach
    have hlength := hending.length_le hmax
    rw [trialLimit, coarseCount, if_pos (UInt64.le_iff_toNat_le.1 hreach)] at hlength
    exact hlength

/-- When a search stops. It stops on all outcomes of its trials exactly if the largest bound is
below the largest word. Then it returns a bound or is exhausted, after the number of trials that its
result tells: none if the initial bound is out of reach, and otherwise at most one for each coarse
bound within reach and the confirmations for each bound. At the largest word it never stops if all
trials fail. -/
theorem stops_iff (config : SearchConfig) (unit : String) (progress : Progress) :
    ((∀ (σ : Type) (trial : UInt64 → σ → Bool × σ) (s : σ), ∃ rounds,
        (loop config unit trial rounds (opening config s progress)).1 ≠ none) ↔
      config.maxBound.toNat < maxWord) ∧
    (config.maxBound.toNat < maxWord →
      ∀ (σ : Type) (trial : UInt64 → σ → Bool × σ) (s : σ),
        let trials := (history config unit trial s progress).length
        (∃ verdict, verdict.trials = trials ∧
          ∀ rounds, trials < rounds →
            (loop config unit trial rounds (opening config s progress)).1 = some verdict) ∧
        ((∃ outcome, (findMinBound config unit trial s progress).1 = .ok outcome ∧
            outcome.trials = trials) ∨
          (findMinBound config unit trial s progress).1 =
              .error (exhaustion config unit trials) ∧
            (exhaustion config unit trials).kind = .searchExhausted) ∧
        (config.maxBound < atLeastOne config.initialBound → trials = 0) ∧
        (atLeastOne config.initialBound ≤ config.maxBound →
          trials ≤ (config.maxBound.toNat - (atLeastOne config.initialBound).toNat) /
              (atLeastOne config.coarseStep).toNat + 1 +
            max config.confirmations 1 * config.maxBound.toNat)) ∧
    (config.maxBound.toNat = maxWord → ∀ rounds,
      (loop config unit (judge (fun _ => false) fun _ s => s) rounds
        (opening config () progress)).1 = none) := by
  refine ⟨⟨?_, ?_⟩, ?_, ?_⟩
  · intro hstops
    by_contra hmax
    obtain ⟨rounds, hrounds⟩ := hstops Unit (judge (fun _ => false) fun _ s => s) ()
    exact hrounds (loop_of_failures hmax () progress rounds)
  · intro hmax σ trial s
    exact ends_of_lt hmax unit trial s progress
  · intro hmax σ trial s trials
    obtain ⟨verdict, hending, hresult, hloop⟩ := exists_ending config unit trial s progress hmax
    have htrials := hending.trials_eq
    refine ⟨⟨verdict, htrials, hloop⟩, ?_, length_history_le config unit trial s progress hmax⟩
    cases verdict with
    | found outcome => exact Or.inl ⟨outcome, hresult, htrials⟩
    | exhausted count =>
      right
      rw [hresult]
      exact ⟨congrArg (fun n => Except.error (exhaustion config unit n)) htrials, rfl⟩
  · intro hmax rounds
    exact loop_of_failures (Nat.not_lt_of_le (Nat.le_of_eq hmax.symm)) () progress rounds

/-- The limit is met. The first success is at the only coarse bound, and at each bound from one to
three a success is followed by a failure. -/
theorem stops_after_seven_trials :
    let config : SearchConfig :=
      { initialBound := 3, coarseStep := 3, confirmations := 2, maxBound := 3 }
    let outcomes := [true, true, false, true, false, true, false]
    let trial := fun (_ : UInt64) (n : Nat) => (outcomes.getD n false, n + 1)
    config.maxBound.toNat < maxWord ∧
      (history config "MB" trial 0 { isTerminal := true }).length = 7 ∧
      (config.maxBound.toNat - 3) / 3 + 1 + 2 * config.maxBound.toNat = 7 ∧
      (∃ failure, (findMinBound config "MB" trial 0 { isTerminal := true }).1 = .error failure ∧
        failure.kind = .searchExhausted) ∧
      ∀ rounds, 7 < rounds →
        (loop config "MB" trial rounds (opening config 0 { isTerminal := true })).1 =
          some (.exhausted 7) := by
  intro config outcomes trial
  have hmax : config.maxBound.toNat < maxWord := by decide
  have hend : (loop config "MB" (recording trial) 8
      (opening config (0, []) { isTerminal := true })).1 = some (.exhausted 7) := by decide +kernel
  obtain ⟨hhistory, hsearch⟩ := search_of_end hend
  obtain ⟨⟨verdict, htrials, hloop⟩, hresult, -⟩ :=
    (stops_iff config "MB" { isTerminal := true }).2.1 hmax Nat trial 0
  have hseven : (history config "MB" trial 0 { isTerminal := true }).length = 7 := by
    rw [hhistory]
    decide +kernel
  rw [hseven] at hloop hresult
  refine ⟨hmax, hseven, by decide, ?_, ?_⟩
  · rcases hresult with ⟨outcome, hok, -⟩ | ⟨herror, hkind⟩
    · cases hsearch.symm.trans hok
    · exact ⟨_, herror, hkind⟩
  · have hplain : (loop config "MB" trial 8 (opening config 0 { isTerminal := true })).1 =
        some (.exhausted 7) := by decide +kernel
    have hverdict : some verdict = some (.exhausted 7) := (hloop 8 (by decide)).symm.trans hplain
    rw [hverdict] at hloop
    exact hloop

end RunMeter.Search
