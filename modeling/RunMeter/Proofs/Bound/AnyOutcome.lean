import RunMeter.Proofs.Bound.Course

/-!
# What a search has tried when it returns

Nothing is assumed of the trials here: their outcomes may depend on the bound, on the trials before
and on anything else. Still the history of a search says how it has ended. A bound is returned after
the required successes in a row, all of them past the coarse phase, and every bound from the restart
up to it has failed exactly once on the way (`Ending.of_found`). If the search is exhausted, either
all coarse bounds within reach have failed or every bound from the restart on has
(`Ending.of_exhausted`). `history_of_findMinBound` reads both off the result.
-/

set_option autoImplicit false

namespace RunMeter.Search

variable {σ : Type} {config : SearchConfig}

/-- The trials before a bound is returned: the coarse failures, the first success, and a climb whose
last trials are the successes that confirm the bound. -/
theorem Ending.of_found {tried : List (UInt64 × Bool)} {outcome : SearchOutcome}
    (ending : Ending config tried (.found outcome)) (hmax : config.maxBound.toNat < maxWord) :
    ∃ (k : Nat) (earlier : List (UInt64 × Bool)),
      let first := config.coarseBound k
      let confirm := earlier ++
        List.replicate (max config.confirmations 1) (outcome.bound, true)
      tried = coarseFailures config k ++ (first, true) :: confirm ∧
        outcome.firstSuccess = some first ∧
        ∀ x : UInt64, config.restart first ≤ x.toNat → x < outcome.bound →
          confirm.count (x, false) = 1 := by
  cases ending with
  | @found k bound row made climb hrow hreach hbound =>
    obtain ⟨earlier, hmade⟩ := climb.exists_streak
    have hconfirm : made ++ [(clampWord bound, true)] =
        earlier ++ List.replicate (max config.confirmations 1) (clampWord bound, true) := by
      rw [hmade, ← hrow, List.append_assoc, ← List.replicate_succ']
    refine ⟨k, earlier, ?_, rfl, ?_⟩
    · rw [hconfirm]
    · intro x hlow hhigh
      rw [UInt64.le_iff_toNat_le, toNat_clampWord] at hbound
      rw [UInt64.lt_iff_toNat_lt, toNat_clampWord] at hhigh
      have hsuccess : ¬ ((clampWord bound, true) == (x, false)) = true := by simp
      rw [← hconfirm, List.count_append, climb.count_failure (by omega) x,
        if_pos ⟨hlow, by omega⟩, List.count_singleton, if_neg hsuccess]

/-- The bound that is returned is no further above the first success than there have been failures
since. -/
theorem Ending.exists_confirmation {tried : List (UInt64 × Bool)} {outcome : SearchOutcome}
    (ending : Ending config tried (.found outcome)) :
    ∃ (k : Nat) (earlier : List (UInt64 × Bool)),
      let first := config.coarseBound k
      tried = coarseFailures config k ++ (first, true) ::
          (earlier ++ List.replicate (max config.confirmations 1) (outcome.bound, true)) ∧
        outcome.firstSuccess = some first ∧
        outcome.bound.toNat ≤ first.toNat + earlier.countP fun t => !t.2 := by
  cases ending with
  | @found k bound row made climb hrow hreach hbound =>
    obtain ⟨earlier, rfl⟩ := climb.exists_streak
    refine ⟨k, earlier, ?_, rfl, ?_⟩
    · rw [← hrow, List.append_assoc, ← List.replicate_succ']
    · have hrise := climb.bound_eq
      have hrestart := config.restart_le (config.one_le_toNat_coarseBound k)
      rw [List.countP_append, List.countP_replicate, if_neg (by simp)] at hrise
      simp only [toNat_clampWord]
      omega

/-- The trials before a search is exhausted: without a success all coarse bounds within reach, and
after a first success a climb past the largest bound. -/
theorem Ending.of_exhausted {tried : List (UInt64 × Bool)} {trials : Nat}
    (ending : Ending config tried (.exhausted trials)) (hmax : config.maxBound.toNat < maxWord) :
    tried = coarseFailures config (coarseCount config) ∨
      ∃ (k : Nat) (confirm : List (UInt64 × Bool)),
        tried = coarseFailures config k ++ (config.coarseBound k, true) :: confirm ∧
        ∀ x : UInt64, config.restart (config.coarseBound k) ≤ x.toNat → x ≤ config.maxBound →
          confirm.count (x, false) = 1 := by
  cases ending with
  | exhausted course hreach hexceeded =>
    cases course with
    | coarse k =>
      left
      have hcount := le_coarseCount hmax hreach
      have hlast : ¬ config.coarseBound k ≤ config.maxBound := UInt64.not_le.2 hexceeded
      rw [coarseBound_le_iff hmax] at hlast
      have hk : k = coarseCount config := by omega
      rw [hk]
    | @confirm k bound row made climb =>
      right
      refine ⟨k, made, rfl, ?_⟩
      intro x hlow hhigh
      rw [List.forall_mem_append, List.forall_mem_cons] at hreach
      have hfirst : (config.coarseBound k).toNat ≤ config.maxBound.toNat :=
        UInt64.le_iff_toNat_le.1 hreach.2.1
      have hrestart := config.restart_le (config.one_le_toNat_coarseBound k)
      -- The climb has just left the reach of the search, so its bound is not cut off.
      have hend := climb.bound_le_or hmax (by omega) hreach.2.2
      have hpast : config.maxBound < clampWord bound := hexceeded
      rw [UInt64.lt_iff_toNat_lt, toNat_clampWord] at hpast
      rw [UInt64.le_iff_toNat_le] at hhigh
      rw [climb.count_failure (by omega) x, if_pos ⟨hlow, by omega⟩]

/-- The coarse bounds within reach are the initial bound and those whole steps above it. -/
theorem coarseFailures_coarseCount (hmax : config.maxBound.toNat < maxWord) :
    (∀ k, (atLeastOne config.initialBound).toNat + k * (atLeastOne config.coarseStep).toNat ≤
        config.maxBound.toNat ↔ k < coarseCount config) ∧
      (coarseFailures config (coarseCount config)).map (fun t => (t.1.toNat, t.2)) =
        (List.range (coarseCount config)).map fun k =>
          ((atLeastOne config.initialBound).toNat + k * (atLeastOne config.coarseStep).toNat,
            false) := by
  have hbound : ∀ k, config.coarseBound k ≤ config.maxBound ↔
      (atLeastOne config.initialBound).toNat + k * (atLeastOne config.coarseStep).toNat ≤
        config.maxBound.toNat := by
    intro k
    rw [UInt64.le_iff_toNat_le, SearchConfig.coarseBound, toNat_clampWord]
    omega
  constructor
  · intro k
    rw [← hbound, coarseBound_le_iff hmax]
  · rw [coarseFailures, List.map_map]
    apply List.map_congr_left
    intro k hk
    have hreach := (hbound k).1 ((coarseBound_le_iff hmax k).2 (List.mem_range.1 hk))
    have hword : (config.coarseBound k).toNat =
        (atLeastOne config.initialBound).toNat + k * (atLeastOne config.coarseStep).toNat := by
      rw [SearchConfig.coarseBound, toNat_clampWord]
      omega
    simp only [Function.comp_apply, hword]

/-- What a search has tried, whatever the outcomes. All bounds are from one to the largest bound. A
search that returns a bound has had a first coarse success, and after it a confirm phase that fails
once at every bound from the restart up to the one returned and ends with the required successes
there. A search that is exhausted has failed at all coarse bounds within reach, or it has had a
first success and a confirm phase that fails once at every bound from the restart up to the largest.
-/
theorem history_of_findMinBound (config : SearchConfig) (unit : String)
    (trial : UInt64 → σ → Bool × σ) (s : σ) (progress : Progress)
    (hmax : config.maxBound.toNat < maxWord) :
    let result := (findMinBound config unit trial s progress).1
    let tried := history config unit trial s progress
    (∀ t ∈ tried, 1 ≤ t.1.toNat ∧ t.1 ≤ config.maxBound) ∧
    (∀ outcome, result = .ok outcome →
      outcome.trials = tried.length ∧
      ∃ (k : Nat) (earlier : List (UInt64 × Bool)),
        let first := config.coarseBound k
        let confirm := earlier ++
          List.replicate (max config.confirmations 1) (outcome.bound, true)
        tried = coarseFailures config k ++ (first, true) :: confirm ∧
          outcome.firstSuccess = some first ∧
          ∀ x : UInt64, config.restart first ≤ x.toNat → x < outcome.bound →
            confirm.count (x, false) = 1) ∧
    (∀ failure, result = .error failure →
      failure = exhaustion config unit tried.length ∧
      ((∃ n, (∀ k, (atLeastOne config.initialBound).toNat +
            k * (atLeastOne config.coarseStep).toNat ≤ config.maxBound.toNat ↔ k < n) ∧
          tried.map (fun t => (t.1.toNat, t.2)) = (List.range n).map fun k =>
            ((atLeastOne config.initialBound).toNat + k * (atLeastOne config.coarseStep).toNat,
              false)) ∨
        ∃ (k : Nat) (confirm : List (UInt64 × Bool)),
          tried = coarseFailures config k ++ (config.coarseBound k, true) :: confirm ∧
          ∀ x : UInt64, config.restart (config.coarseBound k) ≤ x.toNat → x ≤ config.maxBound →
            confirm.count (x, false) = 1)) := by
  intro result tried
  obtain ⟨verdict, hending, hresult, -⟩ := exists_ending config unit trial s progress hmax
  have htrials := hending.trials_eq
  refine ⟨hending.bounds, ?_, ?_⟩
  · intro outcome hok
    cases verdict with
    | exhausted trials => cases hresult.symm.trans hok
    | found found =>
      cases hresult.symm.trans hok
      exact ⟨htrials, hending.of_found hmax⟩
  · intro failure herror
    cases verdict with
    | found outcome => cases hresult.symm.trans herror
    | exhausted trials =>
      cases hresult.symm.trans herror
      refine ⟨congrArg (exhaustion config unit) htrials, ?_⟩
      rcases hending.of_exhausted hmax with hcoarse | hclimb
      · left
        obtain ⟨hcount, hbounds⟩ := coarseFailures_coarseCount hmax
        refine ⟨coarseCount config, hcount, ?_⟩
        rw [← hbounds, ← hcoarse]
      · exact Or.inr hclimb

/-- A success at three is followed by a failure there and counts for nothing: the search goes on and
returns five, after two successes in a row. The first success at five is not one of them. -/
theorem history_of_broken_streak :
    let config : SearchConfig :=
      { initialBound := 2, coarseStep := 3, confirmations := 2, maxBound := 9 }
    let outcomes := [false, true, true, false, false, true, true]
    let trial := fun (_ : UInt64) (n : Nat) => (outcomes.getD n false, n + 1)
    let tried := history config "MB" trial 0 { isTerminal := true }
    config.maxBound.toNat < maxWord ∧
      tried = [(2, false), (5, true), (3, true), (3, false), (4, false), (5, true), (5, true)] ∧
      (findMinBound config "MB" trial 0 { isTerminal := true }).1 =
        .ok { bound := 5, trials := 7, firstSuccess := some 5 } ∧
      ∃ (k : Nat) (earlier : List (UInt64 × Bool)),
        tried = coarseFailures config k ++ (config.coarseBound k, true) ::
          (earlier ++ List.replicate 2 (5, true)) := by
  intro config outcomes trial tried
  have hmax : config.maxBound.toNat < maxWord := by decide
  have hend : (loop config "MB" (recording trial) 7
      (opening config (0, []) { isTerminal := true })).1 =
      some (.found { bound := 5, trials := 7, firstSuccess := some 5 }) := by decide +kernel
  obtain ⟨hrecord, hok⟩ := search_of_end hend
  have hhistory : tried =
      [(2, false), (5, true), (3, true), (3, false), (4, false), (5, true), (5, true)] := by
    change history config "MB" trial 0 { isTerminal := true } = _
    rw [hrecord]
    decide +kernel
  obtain ⟨-, k, earlier, htried, -⟩ :=
    (history_of_findMinBound config "MB" trial 0 { isTerminal := true } hmax).2.1 _ hok
  exact ⟨hmax, hhistory, hok, k, earlier, htried⟩

end RunMeter.Search
