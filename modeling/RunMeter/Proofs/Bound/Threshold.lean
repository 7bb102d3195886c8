import RunMeter.Proofs.Bound.LeastBound
import RunMeter.Settings

/-!
# Searching for a threshold

A trial with a threshold succeeds from some bound on. The search then returns the larger of the
threshold and its restart (`threshold_answer`). After a coarse failure the restart lies above that
failure and so at or below the threshold; but if the very first coarse trial succeeds, no failure is
known, and the search restarts all the same a step below the initial bound. So it returns the
threshold exactly when the initial bound is less than a step above it (`threshold_found_iff`).
-/

set_option autoImplicit false

namespace RunMeter.Search

variable {σ : Type} {config : SearchConfig} {unit : String} {after : UInt64 → σ → σ}

/-- A trial that succeeds from the threshold on. -/
def reaches (threshold bound : UInt64) : Bool := decide (threshold ≤ bound)

@[simp]
theorem reaches_eq_true_iff (threshold bound : UInt64) :
    reaches threshold bound = true ↔ threshold.toNat ≤ bound.toNat := by
  rw [reaches, decide_eq_true_iff, UInt64.le_iff_toNat_le]

/-- A search with the largest word as its largest bound comes to a coarse bound that succeeds. -/
theorem exists_reach_of_maxWord (threshold : UInt64) (hmax : ¬ config.maxBound.toNat < maxWord) :
    ∃ k, config.coarseBound k ≤ config.maxBound ∧
      reaches threshold (config.coarseBound k) = true := by
  have hthreshold := toNat_le_maxWord threshold
  have hsteps : maxWord ≤ maxWord * max config.coarseStep.toNat 1 :=
    Nat.le_mul_of_pos_right _ (by omega)
  have hbound : (config.coarseBound maxWord).toNat = maxWord := by
    rw [SearchConfig.toNat_coarseBound]
    omega
  refine ⟨maxWord, ?_, ?_⟩
  · rw [UInt64.le_iff_toNat_le, hbound]
    omega
  · rw [reaches_eq_true_iff, hbound]
    exact hthreshold

/-- A search that returns a bound has had a coarse success. -/
theorem exists_reach_of_ok {threshold : UInt64} {s : σ} {progress : Progress}
    {outcome : SearchOutcome}
    (hok : (findMinBound config unit (judge (reaches threshold) after) s progress).1 =
      .ok outcome) :
    ∃ k, config.coarseBound k ≤ config.maxBound ∧
      reaches threshold (config.coarseBound k) = true := by
  by_contra hnone
  have hfail : ∀ k, config.coarseBound k ≤ config.maxBound →
      reaches threshold (config.coarseBound k) = false := by
    intro k hk
    apply Bool.eq_false_iff.2
    intro hsuccess
    exact hnone ⟨k, hk, hsuccess⟩
  by_cases hmax : config.maxBound.toNat < maxWord
  · obtain ⟨tried, -, hresult, -⟩ := findMinBound_of_none unit after s progress hmax hfail
    rw [hresult] at hok
    cases hok
  · exact hnone (exists_reach_of_maxWord threshold hmax)

/-- The least bound from the restart on that reaches the threshold is the larger of the two. -/
theorem toNat_of_isLeast_reach {threshold first bound : UInt64}
    (hfirst : threshold.toNat ≤ first.toNat) (hone : 1 ≤ first.toNat)
    (hbound : IsLeast {b : UInt64 | config.restart first ≤ b.toNat ∧ b ≤ first ∧
      reaches threshold b = true} bound) :
    bound.toNat = max threshold.toNat (config.restart first) := by
  have hrestart := config.restart_le hone
  obtain ⟨⟨hlow, -, hreach⟩, hleast⟩ := hbound
  rw [reaches_eq_true_iff] at hreach
  have hword : (clampWord (max threshold.toNat (config.restart first))).toNat =
      max threshold.toNat (config.restart first) :=
    toNat_clampWord_of_le (Nat.max_le_of_le_of_le hfirst hrestart)
  have hle : bound ≤ clampWord (max threshold.toNat (config.restart first)) := by
    apply hleast
    refine ⟨?_, ?_, ?_⟩
    · rw [hword]
      omega
    · rw [UInt64.le_iff_toNat_le, hword]
      omega
    · rw [reaches_eq_true_iff, hword]
      omega
  rw [UInt64.le_iff_toNat_le, hword] at hle
  omega

/-- The course of a search for a threshold: the coarse trials up to the first bound that reaches it,
the climb from the restart to the answer, and the confirmations. -/
theorem threshold_course {threshold : UInt64} {s : σ} {progress : Progress}
    {outcome : SearchOutcome}
    (hok : (findMinBound config unit (judge (reaches threshold) after) s progress).1 =
      .ok outcome) :
    ∃ (k : Nat) (tried : List UInt64), threshold.toNat ≤ (config.coarseBound k).toNat ∧
      (∀ j < k, (config.coarseBound j).toNat < threshold.toNat) ∧
      outcome.bound.toNat = max threshold.toNat (config.restart (config.coarseBound k)) ∧
      outcome.firstSuccess = some (config.coarseBound k) ∧
      tried.length = outcome.trials ∧
      outcome.trials = k + 1 +
        (outcome.bound.toNat - config.restart (config.coarseBound k)) +
        max config.confirmations 1 ∧
      (findMinBound config unit (judge (reaches threshold) after) s progress).2.2.1 =
        tried.foldl (fun s bound => after bound s) s := by
  obtain ⟨k, hk⟩ := exists_first_success (exists_reach_of_ok hok)
  have hone := config.one_le_toNat_coarseBound k
  have hreach := (reaches_eq_true_iff _ _).1 hk.1.2
  obtain ⟨bound, hbound⟩ := exists_least_bound config hone hk.1.2
  obtain ⟨tried, hlength, hresult, hstate⟩ :=
    findMinBound_of_isLeast config unit after s progress hk hbound
  rw [hresult] at hok
  cases hok
  refine ⟨k, tried, hreach, ?_, toNat_of_isLeast_reach hreach hone hbound, rfl, rfl, hlength, hstate⟩
  intro j hj
  have hfail := Bool.eq_false_iff.1 (fails_before_first hk j hj)
  rw [Ne, reaches_eq_true_iff] at hfail
  omega

/-- The answer of a search for a threshold is the larger of the threshold and the restart after the
first coarse bound that reaches it. -/
theorem threshold_answer {threshold : UInt64} {s : σ} {progress : Progress}
    {outcome : SearchOutcome}
    (hok : (findMinBound config unit (judge (reaches threshold) after) s progress).1 =
      .ok outcome) :
    ∃ k, threshold.toNat ≤ (config.coarseBound k).toNat ∧
      (∀ j < k, (config.coarseBound j).toNat < threshold.toNat) ∧
      outcome.bound.toNat = max threshold.toNat (config.restart (config.coarseBound k)) := by
  obtain ⟨k, -, hreach, hbefore, hanswer, -⟩ := threshold_course hok
  exact ⟨k, hreach, hbefore, hanswer⟩

/-- After a coarse failure the restart is not above the threshold. -/
theorem restart_le_threshold {threshold : UInt64} {k : Nat}
    (hfail : (config.coarseBound k).toNat < threshold.toNat) :
    config.restart (config.coarseBound (k + 1)) ≤ threshold.toNat := by
  rw [SearchConfig.toNat_coarseBound] at hfail
  rw [SearchConfig.restart, SearchConfig.toNat_coarseBound, toNat_atLeastOne, Nat.succ_mul]
  omega

/-- When a search for a threshold returns it. Whatever bound the search returns, it is the threshold
exactly if the initial bound is less than a coarse step above the threshold; otherwise the search does
not look below its first restart and returns that. -/
theorem threshold_found_iff (config : SearchConfig) (unit : String) (threshold : UInt64)
    (after : UInt64 → σ → σ) (s : σ) (progress : Progress) (outcome : SearchOutcome)
    (hthreshold : 1 ≤ threshold.toNat)
    (hok : (findMinBound config unit (judge (reaches threshold) after) s progress).1 =
      .ok outcome) :
    (outcome.bound = threshold ↔
      (atLeastOne config.initialBound).toNat <
        threshold.toNat + (atLeastOne config.coarseStep).toNat) ∧
    (threshold.toNat + (atLeastOne config.coarseStep).toNat ≤
        (atLeastOne config.initialBound).toNat →
      outcome.bound.toNat =
        (atLeastOne config.initialBound).toNat - ((atLeastOne config.coarseStep).toNat - 1)) := by
  obtain ⟨k, hreach, hbefore, hanswer⟩ := threshold_answer hok
  have hstep : 1 ≤ (atLeastOne config.coarseStep).toNat := by
    rw [toNat_atLeastOne]
    omega
  rw [← UInt64.toNat_inj, hanswer]
  cases k with
  | zero =>
    rw [SearchConfig.coarseBound_zero] at hreach ⊢
    unfold SearchConfig.restart
    constructor
    · omega
    · omega
  | succ k =>
    have hinitial := hbefore 0 (Nat.succ_pos k)
    rw [SearchConfig.coarseBound_zero] at hinitial
    have hrestart := restart_le_threshold (hbefore k (Nat.lt_succ_self k))
    constructor
    · omega
    · omega

/-- A search whose first trial, at forty, succeeds less than a step above the threshold. -/
theorem threshold_found_below_forty :
    (findMinBound { initialBound := 40, confirmations := 2 } "MB"
        (judge (reaches 37) fun _ n => n + 1) 0 { isTerminal := true }).1 =
        .ok { bound := 37, trials := 9, firstSuccess := some 40 } ∧
      ((37 : UInt64) = 37 ↔ (40 : Nat) < 37 + 10) := by
  have hend : (loop { initialBound := 40, confirmations := 2 } "MB"
      (judge (reaches 37) fun _ n => n + 1) 9
      (opening { initialBound := 40, confirmations := 2 } 0 { isTerminal := true })).1 =
      some (.found { bound := 37, trials := 9, firstSuccess := some 40 }) := by decide +kernel
  have hok : (findMinBound { initialBound := 40, confirmations := 2 } "MB"
      (judge (reaches 37) fun _ n => n + 1) 0 { isTerminal := true }).1 =
      .ok { bound := 37, trials := 9, firstSuccess := some 40 } :=
    congrArg Prod.fst (findMinBound_of_end hend)
  exact ⟨hok, (threshold_found_iff _ _ 37 _ _ _ _ (by decide) hok).1⟩

/-- Settings that pass validation, and a threshold of one that the search does not find: its first
trial, at ten, succeeds, and with a step of one it never looks below ten. -/
theorem threshold_one_missed :
    let settings : Settings := { reps := 1, bound := { initialBound := 10, coarseStep := 1 } }
    let config : SearchConfig :=
      { initialBound := settings.bound.initialBound
        coarseStep := settings.bound.coarseStep
        confirmations := settings.reps
        maxBound := settings.bound.maxBound }
    settings.validate = .ok () ∧
      (findMinBound config settings.bound.unit (judge (reaches 1) fun _ n => n + 1) 0
        { isTerminal := true }).1 =
        .ok { bound := 10, trials := 2, firstSuccess := some 10 } ∧
      (10 : UInt64) ≠ 1 ∧ reaches 1 1 = true := by
  refine ⟨rfl, ?_, by decide, rfl⟩
  have hend : (loop { initialBound := 10, coarseStep := 1, confirmations := 1 } "MB"
      (judge (reaches 1) fun _ n => n + 1) 2
      (opening { initialBound := 10, coarseStep := 1, confirmations := 1 } 0
        { isTerminal := true })).1 =
      some (.found { bound := 10, trials := 2, firstSuccess := some 10 }) := by decide +kernel
  exact congrArg Prod.fst (findMinBound_of_end hend)

end RunMeter.Search
