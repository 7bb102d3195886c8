import RunMeter.Proofs.Bound.Rounds

/-!
# The two phases of a bound search in closed form

Before coarse trial `k` a search is in `config.coarseState k`: the bound has been raised `k` times by
the step and stops at the largest word. After a first success it is in a `confirmState`, whose bound
starts at `config.restart` and grows by one with every failure. The four `advance` lemmas say that
these states are closed under every outcome.

The trials of a predicate succeed or fail by their bound alone, whatever state they keep beside it.
For them each phase is a row of trials: the coarse failures (`coarse_stretch`), the failures of the
climb (`climb_stretch`) and the successes that confirm a bound (`confirm_stretch`).
-/

set_option autoImplicit false

namespace RunMeter

namespace SearchConfig

/-- The bound of coarse trial `k`, counted from zero. -/
def coarseBound (config : SearchConfig) (k : Nat) : UInt64 :=
  clampWord ((atLeastOne config.initialBound).toNat + k * (atLeastOne config.coarseStep).toNat)

/-- Where the confirm phase begins after a first success. -/
def restart (config : SearchConfig) (first : UInt64) : Nat :=
  max 1 (first.toNat - ((atLeastOne config.coarseStep).toNat - 1))

/-- Where a search stands before coarse trial `k`. -/
def coarseState (config : SearchConfig) (k : Nat) : SearchState :=
  { phase := .coarse
    bound := config.coarseBound k
    step := atLeastOne config.coarseStep
    successes := 0
    trials := k
    firstSuccess := none }

theorem toNat_coarseBound (config : SearchConfig) (k : Nat) :
    (config.coarseBound k).toNat =
      min (max config.initialBound.toNat 1 + k * max config.coarseStep.toNat 1) maxWord := by
  rw [coarseBound, toNat_clampWord, toNat_atLeastOne, toNat_atLeastOne]

theorem coarseBound_zero (config : SearchConfig) :
    config.coarseBound 0 = atLeastOne config.initialBound := by
  apply UInt64.toNat_inj.1
  have := toNat_le_maxWord (atLeastOne config.initialBound)
  rw [toNat_coarseBound, Nat.zero_mul, Nat.add_zero]
  rw [toNat_atLeastOne] at this ⊢
  omega

theorem one_le_restart (config : SearchConfig) (first : UInt64) : 1 ≤ config.restart first :=
  Nat.le_max_left _ _

/-- The confirm phase begins no higher than the first success. -/
theorem restart_le (config : SearchConfig) {first : UInt64} (hfirst : 1 ≤ first.toNat) :
    config.restart first ≤ first.toNat := by
  unfold restart
  omega

theorem one_le_toNat_coarseBound (config : SearchConfig) (k : Nat) :
    1 ≤ (config.coarseBound k).toNat := by
  rw [toNat_coarseBound, maxWord]
  omega

end SearchConfig

/-- Where a search stands in the confirm phase. -/
def SearchState.confirmState (first : UInt64) (bound trials successes : Nat) : SearchState :=
  { phase := .confirm
    bound := clampWord bound
    step := 1
    successes
    trials
    firstSuccess := some first }

namespace SearchState

variable {config : SearchConfig}

theorem start_eq (config : SearchConfig) : start config = config.coarseState 0 := by
  rw [start, SearchConfig.coarseState, SearchConfig.coarseBound_zero]

/-- A coarse failure raises the bound by the step. -/
theorem advance_coarse_failure (k : Nat) :
    (config.coarseState k).advance config false = (none, config.coarseState (k + 1)) := by
  have hbound : saturatingAdd (config.coarseBound k) (atLeastOne config.coarseStep) =
      config.coarseBound (k + 1) := by
    apply UInt64.toNat_inj.1
    rw [toNat_saturatingAdd, SearchConfig.toNat_coarseBound, SearchConfig.toNat_coarseBound,
      toNat_atLeastOne, Nat.succ_mul]
    omega
  simp only [SearchConfig.coarseState, ← hbound]
  rfl

/-- A coarse success moves the bound back to just above the coarse trial before it. -/
theorem advance_coarse_success (k : Nat) :
    (config.coarseState k).advance config true =
      (none, confirmState (config.coarseBound k) (config.restart (config.coarseBound k))
        (k + 1) 0) := by
  have hbound : atLeastOne (saturatingSub (config.coarseBound k)
      (saturatingSub (atLeastOne config.coarseStep) 1)) =
      clampWord (config.restart (config.coarseBound k)) := by
    apply UInt64.toNat_inj.1
    have := toNat_le_maxWord (config.coarseBound k)
    rw [toNat_atLeastOne, toNat_saturatingSub, toNat_saturatingSub, toNat_clampWord,
      SearchConfig.restart, show (1 : UInt64).toNat = 1 from rfl]
    simp only [maxWord] at this ⊢
    omega
  simp only [confirmState, ← hbound]
  rfl

/-- A failure in the confirm phase raises the bound by one and breaks the row of successes. -/
theorem advance_confirm_failure (first : UInt64) (bound trials successes : Nat) :
    (confirmState first bound trials successes).advance config false =
      (none, confirmState first (bound + 1) (trials + 1) 0) := by
  have hbound : saturatingAdd (clampWord bound) 1 = clampWord (bound + 1) := by
    apply UInt64.toNat_inj.1
    rw [toNat_saturatingAdd, toNat_clampWord, toNat_clampWord, show (1 : UInt64).toNat = 1 from rfl]
    omega
  simp only [confirmState, ← hbound]
  rfl

/-- A success in the confirm phase lengthens the row, and gives the answer once it is long enough. -/
theorem advance_confirm_success (first : UInt64) (bound trials successes : Nat) :
    (confirmState first bound trials successes).advance config true =
      (if max config.confirmations 1 ≤ successes + 1 then some (clampWord bound) else none,
        confirmState first bound (trials + 1) (successes + 1)) := rfl

end SearchState

namespace Search

open SearchState

variable {σ : Type} (config : SearchConfig) (unit : String) (succeeds : UInt64 → Bool)
  (after : UInt64 → σ → σ)

/-- A trial that succeeds or fails by its bound alone, and keeps a state of any kind beside it. -/
def judge (succeeds : UInt64 → Bool) (after : UInt64 → σ → σ) (bound : UInt64) (s : σ) : Bool × σ :=
  (succeeds bound, after bound s)

/-- One trial of a predicate that fails is a row by itself. -/
theorem judge_stretch_one (run : SearchRun σ) (state : SearchState) {answer : Option UInt64}
    (inReach : run.state.bound ≤ config.maxBound)
    (hadvance : run.state.advance config (succeeds run.state.bound) = (answer, state))
    (noAnswer : answer = none) :
    ∃ next, Stretch config unit (judge succeeds after) run
        [(run.state.bound, succeeds run.state.bound)] next ∧ next.state = state := by
  refine ⟨(attempt config unit (judge succeeds after) run).2, .cons inReach ?_ (.nil _), ?_⟩
  · rw [attempt_fst]
    simp only [judge, hadvance, noAnswer]
  · rw [attempt_state]
    simp only [judge, hadvance]

/-- The coarse failures are a row of trials at the coarse bounds. -/
theorem coarse_stretch (n k : Nat) (run : SearchRun σ) (hstate : run.state = config.coarseState k)
    (hreach : ∀ j, k ≤ j → j < k + n → config.coarseBound j ≤ config.maxBound)
    (hfail : ∀ j, k ≤ j → j < k + n → succeeds (config.coarseBound j) = false) :
    ∃ final, Stretch config unit (judge succeeds after) run
        ((List.range' k n).map fun j => (config.coarseBound j, false)) final ∧
      final.state = config.coarseState (k + n) := by
  induction n generalizing k run with
  | zero => exact ⟨run, .nil run, hstate⟩
  | succ n ih =>
    have hbound : run.state.bound = config.coarseBound k := by rw [hstate]; rfl
    have houtcome : succeeds run.state.bound = false := by
      rw [hbound]
      exact hfail k (Nat.le_refl k) (by omega)
    obtain ⟨next, hone, hnext⟩ := judge_stretch_one config unit succeeds after run
      (config.coarseState (k + 1))
      (by rw [hbound]; exact hreach k (Nat.le_refl k) (by omega))
      (by rw [houtcome, hstate, advance_coarse_failure]) rfl
    obtain ⟨final, hrest, hfinal⟩ := ih (k + 1) next hnext
      (fun j hlow hhigh => hreach j (by omega) (by omega))
      (fun j hlow hhigh => hfail j (by omega) (by omega))
    refine ⟨final, ?_, ?_⟩
    · rw [List.range'_succ, List.map_cons]
      rw [houtcome, hbound] at hone
      exact hone.append hrest
    · rw [hfinal]
      congr 1
      omega

/-- The failures of the climb are a row of trials, each bound one above the last. -/
theorem climb_stretch (n : Nat) {first : UInt64} {bound trials : Nat} {run : SearchRun σ}
    (hstate : run.state = confirmState first bound trials 0)
    (hreach : ∀ b, bound ≤ b → b < bound + n → clampWord b ≤ config.maxBound)
    (hfail : ∀ b, bound ≤ b → b < bound + n → succeeds (clampWord b) = false) :
    ∃ final, Stretch config unit (judge succeeds after) run
        ((List.range' bound n).map fun b => (clampWord b, false)) final ∧
      final.state = confirmState first (bound + n) (trials + n) 0 := by
  induction n generalizing bound trials run with
  | zero => exact ⟨run, .nil run, hstate⟩
  | succ n ih =>
    have hbound : run.state.bound = clampWord bound := by rw [hstate]; rfl
    have houtcome : succeeds run.state.bound = false := by
      rw [hbound]
      exact hfail bound (Nat.le_refl bound) (by omega)
    obtain ⟨next, hone, hnext⟩ := judge_stretch_one config unit succeeds after run
      (confirmState first (bound + 1) (trials + 1) 0)
      (by rw [hbound]; exact hreach bound (Nat.le_refl bound) (by omega))
      (by rw [houtcome, hstate, advance_confirm_failure]) rfl
    obtain ⟨final, hrest, hfinal⟩ := ih hnext
      (fun b hlow hhigh => hreach b (by omega) (by omega))
      (fun b hlow hhigh => hfail b (by omega) (by omega))
    refine ⟨final, ?_, ?_⟩
    · rw [List.range'_succ, List.map_cons]
      rw [houtcome, hbound] at hone
      exact hone.append hrest
    · rw [hfinal]
      congr 1 <;> omega

/-- Successes too few for an answer are a row of trials at one bound. -/
theorem confirm_stretch (n : Nat) {first : UInt64} {bound trials successes : Nat}
    {run : SearchRun σ} (hstate : run.state = confirmState first bound trials successes)
    (hreach : clampWord bound ≤ config.maxBound) (hsuccess : succeeds (clampWord bound) = true)
    (hfew : successes + n < max config.confirmations 1) :
    ∃ final, Stretch config unit (judge succeeds after) run
        (List.replicate n (clampWord bound, true)) final ∧
      final.state = confirmState first bound (trials + n) (successes + n) := by
  induction n generalizing trials successes run with
  | zero => exact ⟨run, .nil run, hstate⟩
  | succ n ih =>
    have hbound : run.state.bound = clampWord bound := by rw [hstate]; rfl
    have houtcome : succeeds run.state.bound = true := by rw [hbound]; exact hsuccess
    have hshort : ¬ max config.confirmations 1 ≤ successes + 1 := by omega
    obtain ⟨next, hone, hnext⟩ := judge_stretch_one config unit succeeds after run
      (confirmState first bound (trials + 1) (successes + 1))
      (by rw [hbound]; exact hreach)
      (by rw [houtcome, hstate, advance_confirm_success]) (if_neg hshort)
    obtain ⟨final, hrest, hfinal⟩ := ih hnext (by omega)
    refine ⟨final, ?_, ?_⟩
    · rw [List.replicate_succ]
      rw [houtcome, hbound] at hone
      exact hone.append hrest
    · rw [hfinal]
      congr 1 <;> omega

/-- The coarse phase up to its first success is a row of trials. -/
theorem first_success_stretch (s : σ) (progress : Progress) {k : Nat}
    (hreach : ∀ j ≤ k, config.coarseBound j ≤ config.maxBound)
    (hfail : ∀ j < k, succeeds (config.coarseBound j) = false)
    (hfirst : succeeds (config.coarseBound k) = true) :
    ∃ final, Stretch config unit (judge succeeds after) (opening config s progress)
        ((List.range' 0 k).map (fun j => (config.coarseBound j, false)) ++
          [(config.coarseBound k, true)]) final ∧
      final.state = confirmState (config.coarseBound k)
        (config.restart (config.coarseBound k)) (k + 1) 0 := by
  obtain ⟨coarse, hcoarse, hstate⟩ := coarse_stretch config unit succeeds after k 0
    (opening config s progress) (start_eq config) (fun j _ hj => hreach j (by omega))
    (fun j _ hj => hfail j (by omega))
  rw [Nat.zero_add] at hstate
  have hbound : coarse.state.bound = config.coarseBound k := by rw [hstate]; rfl
  have houtcome : succeeds coarse.state.bound = true := by rw [hbound]; exact hfirst
  obtain ⟨final, hone, hfinal⟩ := judge_stretch_one config unit succeeds after coarse
    (confirmState (config.coarseBound k) (config.restart (config.coarseBound k)) (k + 1) 0)
    (by rw [hbound]; exact hreach k (Nat.le_refl k))
    (by rw [houtcome, hstate, advance_coarse_success]) rfl
  rw [houtcome, hbound] at hone
  exact ⟨final, hcoarse.append hone, hfinal⟩

/-- The confirm phase up to the last success but one is a row of trials. -/
theorem confirmed_stretch {first : UInt64} {low bound trials : Nat} {run : SearchRun σ}
    (hstate : run.state = confirmState first low trials 0) (hlow : low ≤ bound)
    (hreach : ∀ b ≤ bound, clampWord b ≤ config.maxBound)
    (hclimb : ∀ b, low ≤ b → b < bound → succeeds (clampWord b) = false)
    (hbound : succeeds (clampWord bound) = true) :
    ∃ final, Stretch config unit (judge succeeds after) run
        ((List.range' low (bound - low)).map (fun b => (clampWord b, false)) ++
          List.replicate (max config.confirmations 1 - 1) (clampWord bound, true)) final ∧
      final.state = confirmState first bound
        (trials + (bound - low) + (max config.confirmations 1 - 1))
        (0 + (max config.confirmations 1 - 1)) := by
  obtain ⟨climbed, hclimbed, hstate⟩ := climb_stretch config unit succeeds after (bound - low) hstate
    (fun b _ hb => hreach b (by omega)) (fun b hb hb' => hclimb b hb (by omega))
  rw [Nat.add_sub_cancel' hlow] at hstate
  obtain ⟨final, hconfirm, hfinal⟩ := confirm_stretch config unit succeeds after
    (max config.confirmations 1 - 1) hstate
    (hreach bound (Nat.le_refl bound)) hbound (by omega)
  exact ⟨final, hclimbed.append hconfirm, hfinal⟩

end Search

end RunMeter
