import RunMeter.Proofs.Bound.Threshold

/-!
# The budget of a search for a threshold

A search for a threshold makes one trial for each coarse step up to the threshold, at most one step
of trials of one each above it, and the confirmations. The coarse trials and the climb do not both
take all of this: a climb of a whole step but one ends at a threshold that is a whole step above the
last coarse failure, and then the division counts that step as well (`coarse_and_climb_le`).
-/

set_option autoImplicit false

namespace RunMeter.Search

variable {σ : Type} {config : SearchConfig}

theorem one_le_toNat_atLeastOne (a : UInt64) : 1 ≤ (atLeastOne a).toNat := by
  rw [toNat_atLeastOne]
  exact Nat.le_max_right _ _

/-- A coarse bound that has not been cut off is a sum, and so are those before it. -/
theorem toNat_coarseBound_of_fits {j k : Nat} (hj : j ≤ k)
    (hfits : (atLeastOne config.initialBound).toNat +
      k * (atLeastOne config.coarseStep).toNat < 2 ^ 64) :
    (config.coarseBound j).toNat =
      (atLeastOne config.initialBound).toNat + j * (atLeastOne config.coarseStep).toNat := by
  have hle := Nat.mul_le_mul_right (atLeastOne config.coarseStep).toNat hj
  rw [SearchConfig.coarseBound, toNat_clampWord, maxWord]
  omega

/-- Without a coarse failure the climb to the threshold is shorter than a step. -/
theorem climb_lt_step (config : SearchConfig) {threshold : Nat} {first : UInt64}
    (hreach : threshold ≤ first.toNat) (hone : 1 ≤ first.toNat) :
    max threshold (config.restart first) - config.restart first <
      (atLeastOne config.coarseStep).toNat := by
  have hstep := one_le_toNat_atLeastOne config.coarseStep
  rw [SearchConfig.restart]
  omega

/-- After a coarse failure the restart is one above it. -/
theorem restart_coarseBound_succ {k : Nat}
    (hfits : (atLeastOne config.initialBound).toNat +
      (k + 1) * (atLeastOne config.coarseStep).toNat < 2 ^ 64) :
    config.restart (config.coarseBound (k + 1)) = (config.coarseBound k).toNat + 1 := by
  have hstep := one_le_toNat_atLeastOne config.coarseStep
  rw [SearchConfig.restart, toNat_coarseBound_of_fits (Nat.le_refl _) hfits,
    toNat_coarseBound_of_fits (Nat.le_succ k) hfits, Nat.succ_mul]
  omega

/-- The coarse trials and the climb. Each coarse failure is a whole step below the threshold, and
the climb is shorter than a step. Only a climb of a step less one could exceed the budget, but then
the threshold is a whole step above the last failure and the division counts one step more. -/
theorem coarse_and_climb_le {threshold k : Nat}
    (hreach : threshold ≤ (config.coarseBound k).toNat)
    (hbefore : ∀ j < k, (config.coarseBound j).toNat < threshold)
    (hfits : (atLeastOne config.initialBound).toNat +
      k * (atLeastOne config.coarseStep).toNat < 2 ^ 64) :
    k + 1 + (max threshold (config.restart (config.coarseBound k)) -
        config.restart (config.coarseBound k)) ≤
      threshold / (atLeastOne config.coarseStep).toNat +
        (atLeastOne config.coarseStep).toNat := by
  have hstep := one_le_toNat_atLeastOne config.coarseStep
  have hinitial := one_le_toNat_atLeastOne config.initialBound
  have hclimb := climb_lt_step config hreach (config.one_le_toNat_coarseBound k)
  have hquotient : ∀ n, n ≤ threshold / (atLeastOne config.coarseStep).toNat ↔
      n * (atLeastOne config.coarseStep).toNat ≤ threshold :=
    fun n => Nat.le_div_iff_mul_le hstep
  cases k with
  | zero => exact Nat.le_add_left_of_le (by omega)
  | succ k =>
    have hfail := hbefore k (Nat.lt_succ_self k)
    rw [restart_coarseBound_succ hfits] at hclimb ⊢
    rw [toNat_coarseBound_of_fits (Nat.le_succ k) hfits] at hfail hclimb ⊢
    by_cases hfull : (k + 1) * (atLeastOne config.coarseStep).toNat ≤ threshold
    · have := (hquotient (k + 1)).2 hfull
      omega
    · have := (hquotient k).2 (by omega)
      rw [Nat.succ_mul] at hfull
      omega

/-- The budget of a search for a threshold. A search that returns a bound has made its first success
at the first coarse bound that reaches the threshold. If that bound has not been cut off at the
largest word, the trials made are no more than the whole steps in the threshold, one step, and the
confirmations. -/
theorem threshold_trials_le (config : SearchConfig) (unit : String) (threshold : UInt64)
    (after : UInt64 → σ → σ) (s : σ) (progress : Progress) (outcome : SearchOutcome)
    (hok : (findMinBound config unit (judge (reaches threshold) after) s progress).1 =
      .ok outcome) :
    ∃ (k : Nat) (tried : List UInt64),
      IsLeast {j | threshold.toNat ≤ (config.coarseBound j).toNat} k ∧
      outcome.firstSuccess = some (config.coarseBound k) ∧
      tried.length = outcome.trials ∧
      (findMinBound config unit (judge (reaches threshold) after) s progress).2.2.1 =
        tried.foldl (fun s bound => after bound s) s ∧
      ((atLeastOne config.initialBound).toNat + k * (atLeastOne config.coarseStep).toNat < 2 ^ 64 →
        outcome.trials ≤
          threshold.toNat / (atLeastOne config.coarseStep).toNat +
            (atLeastOne config.coarseStep).toNat + max config.confirmations 1) := by
  obtain ⟨k, tried, hreach, hbefore, hanswer, hfirst, hlength, htrials, hstate⟩ :=
    threshold_course hok
  have hleast : IsLeast {j | threshold.toNat ≤ (config.coarseBound j).toNat} k :=
    ⟨hreach, fun j hj => Nat.le_of_not_lt fun hlt => Nat.not_le_of_lt (hbefore j hlt) hj⟩
  refine ⟨k, tried, hleast, hfirst, hlength, hstate, ?_⟩
  intro hfits
  have hbudget := coarse_and_climb_le hreach hbefore hfits
  rw [htrials, hanswer]
  exact Nat.add_le_add_right hbudget _

/-- The whole budget is used: from one, in steps of ten, the threshold of eleven is reached by the
second coarse trial and by the tenth of the climb from two. -/
theorem threshold_eleven_in_twelve :
    let config : SearchConfig := { initialBound := 1, confirmations := 1 }
    let search := findMinBound config "MB" (judge (reaches 11) fun _ n => n + 1) 0
      { isTerminal := true }
    search.1 = .ok { bound := 11, trials := 12, firstSuccess := some 11 } ∧
      search.2.2.1 = 12 ∧ 12 ≤ 11 / 10 + 10 + 1 := by
  have hend : (loop { initialBound := 1, confirmations := 1 } "MB"
      (judge (reaches 11) fun _ n => n + 1) 12
      (opening { initialBound := 1, confirmations := 1 } 0 { isTerminal := true })).1 =
      some (.found { bound := 11, trials := 12, firstSuccess := some 11 }) := by decide +kernel
  have hok : (findMinBound { initialBound := 1, confirmations := 1 } "MB"
      (judge (reaches 11) fun _ n => n + 1) 0 { isTerminal := true }).1 =
      .ok { bound := 11, trials := 12, firstSuccess := some 11 } :=
    congrArg Prod.fst (findMinBound_of_end hend)
  obtain ⟨k, tried, hk, -, hlength, hstate, hbudget⟩ := threshold_trials_le _ _ 11 _ _ _ _ hok
  have hk1 : k ≤ 1 := hk.2 (by decide)
  have htrials : tried.foldl (fun n _ => n + 1) 0 = 12 := by
    rw [List.foldl_const, hlength]
    rfl
  refine ⟨hok, hstate.trans htrials, hbudget ?_⟩
  have := Nat.mul_le_mul_right 10 hk1
  change 1 + k * 10 < 2 ^ 64
  omega

end RunMeter.Search
