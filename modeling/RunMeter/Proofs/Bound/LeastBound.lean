import Mathlib.Data.Set.Card
import Mathlib.Tactic.IntervalCases
import RunMeter.Proofs.Bound.Phases

/-!
# What a search finds for a predicate

A search whose trials follow a predicate of the bound, monotone or not, is settled by two minimal
choices: the first coarse bound that succeeds, and the least bound that succeeds between the restart
and that one (`findMinBound_of_least`). If no coarse bound succeeds, the search tries all of them
that are within reach (`findMinBound_of_none`). `findMinBound_predicate` puts the two together.
-/

set_option autoImplicit false

namespace RunMeter.Search

variable {σ : Type} {config : SearchConfig} {unit : String} {succeeds : UInt64 → Bool}
  {after : UInt64 → σ → σ}

/-! ## Coarse bounds within reach -/

theorem coarseBound_mono (config : SearchConfig) {j k : Nat} (h : j ≤ k) :
    config.coarseBound j ≤ config.coarseBound k := by
  rw [UInt64.le_iff_toNat_le, SearchConfig.toNat_coarseBound, SearchConfig.toNat_coarseBound]
  have := Nat.mul_le_mul_right (max config.coarseStep.toNat 1) h
  omega

/-- Below the largest word a coarse bound within reach has not been cut off. -/
theorem reach_of_coarseBound_le (hmax : config.maxBound.toNat < maxWord) {k : Nat}
    (hreach : config.coarseBound k ≤ config.maxBound) :
    max config.initialBound.toNat 1 + k * max config.coarseStep.toNat 1 ≤
      config.maxBound.toNat := by
  rw [UInt64.le_iff_toNat_le, SearchConfig.toNat_coarseBound] at hreach
  omega

/-- How many coarse bounds are within reach, if the largest bound is below the largest word. -/
def coarseCount (config : SearchConfig) : Nat :=
  if (atLeastOne config.initialBound).toNat ≤ config.maxBound.toNat then
    (config.maxBound.toNat - (atLeastOne config.initialBound).toNat) /
      (atLeastOne config.coarseStep).toNat + 1
  else 0

theorem coarseBound_le_iff (hmax : config.maxBound.toNat < maxWord) (k : Nat) :
    config.coarseBound k ≤ config.maxBound ↔ k < coarseCount config := by
  simp only [coarseCount, toNat_atLeastOne]
  constructor
  · intro hreach
    have hsum := reach_of_coarseBound_le hmax hreach
    have hindex : k ≤ (config.maxBound.toNat - max config.initialBound.toNat 1) /
        max config.coarseStep.toNat 1 := by
      rw [Nat.le_div_iff_mul_le (by omega)]
      omega
    rw [if_pos (by omega)]
    omega
  · intro hlt
    split at hlt
    · next hinitial =>
      have hindex : k ≤ (config.maxBound.toNat - max config.initialBound.toNat 1) /
          max config.coarseStep.toNat 1 := by omega
      rw [Nat.le_div_iff_mul_le (by omega)] at hindex
      rw [UInt64.le_iff_toNat_le, SearchConfig.toNat_coarseBound]
      omega
    · omega

theorem ncard_coarseBound_le (hmax : config.maxBound.toNat < maxWord) :
    {k | config.coarseBound k ≤ config.maxBound}.ncard = coarseCount config := by
  have hset : {k | config.coarseBound k ≤ config.maxBound} =
      (Finset.range (coarseCount config) : Set Nat) := by
    ext k
    rw [Set.mem_ofPred_eq, coarseBound_le_iff hmax, Finset.coe_range, Set.mem_Iio]
  rw [hset, Set.ncard_coe_finset, Finset.card_range]

/-! ## The two ends -/

/-- A search for a predicate finds the least bound that succeeds from the restart on, after its first
coarse success. -/
theorem findMinBound_of_least (unit : String) (after : UInt64 → σ → σ) (s : σ)
    (progress : Progress) {k bound : Nat}
    (hreach : config.coarseBound k ≤ config.maxBound)
    (hfail : ∀ j < k, succeeds (config.coarseBound j) = false)
    (hfirst : succeeds (config.coarseBound k) = true)
    (hlow : config.restart (config.coarseBound k) ≤ bound)
    (hhigh : bound ≤ (config.coarseBound k).toNat)
    (hclimb : ∀ b, config.restart (config.coarseBound k) ≤ b → b < bound →
      succeeds (clampWord b) = false)
    (hbound : succeeds (clampWord bound) = true) :
    ∃ tried : List UInt64,
      tried.length =
        k + 1 + (bound - config.restart (config.coarseBound k)) + max config.confirmations 1 ∧
      (findMinBound config unit (judge succeeds after) s progress).1 =
        .ok { bound := clampWord bound
              trials := tried.length
              firstSuccess := some (config.coarseBound k) } ∧
      (findMinBound config unit (judge succeeds after) s progress).2.2.1 =
        tried.foldl (fun s bound => after bound s) s := by
  have hword : ∀ b ≤ bound, clampWord b ≤ config.maxBound := by
    intro b hb
    rw [UInt64.le_iff_toNat_le] at hreach ⊢
    rw [toNat_clampWord]
    omega
  obtain ⟨restarted, hcoarse, hrestarted⟩ := first_success_stretch config unit succeeds after s progress
    (fun j hj => UInt64.le_trans (coarseBound_mono config hj) hreach) hfail hfirst
  obtain ⟨last, hconfirm, hlast⟩ := confirmed_stretch config unit succeeds after
    hrestarted hlow hword hclimb hbound
  have hlastBound : last.state.bound = clampWord bound := by rw [hlast]; rfl
  -- The last success makes the row long enough, and is itself the trial that gives the answer.
  have hadvance : (last.state.advance config (succeeds last.state.bound)) =
      (some (clampWord bound), SearchState.confirmState (config.coarseBound k) bound
        (k + 1 + (bound - config.restart (config.coarseBound k)) +
          (max config.confirmations 1 - 1) + 1) (0 + (max config.confirmations 1 - 1) + 1)) := by
    rw [hlastBound, hbound, hlast, SearchState.advance_confirm_success, if_pos (by omega)]
  obtain ⟨hresult, hstate⟩ := findMinBound_of_answer
    (hcoarse.append hconfirm)
    (by rw [hlastBound]; exact hword bound (Nat.le_refl bound))
    (congrArg Prod.fst hadvance)
  have hfirstSuccess : (attempt config unit (judge succeeds after) last).2.state.firstSuccess =
      some (config.coarseBound k) := congrArg (fun next => next.2.firstSuccess) hadvance
  rw [hfirstSuccess] at hresult
  refine ⟨_, ?_, hresult, hstate⟩
  simp only [List.length_append, List.length_map, List.length_range', List.length_replicate,
    List.length_cons, List.length_nil]
  omega

/-- A search for a predicate that holds of no coarse bound within reach tries each of them once. -/
theorem findMinBound_of_none (unit : String) (after : UInt64 → σ → σ) (s : σ)
    (progress : Progress) (hmax : config.maxBound.toNat < maxWord)
    (hfail : ∀ k, config.coarseBound k ≤ config.maxBound →
      succeeds (config.coarseBound k) = false) :
    ∃ tried : List UInt64,
      tried.length = coarseCount config ∧
      (findMinBound config unit (judge succeeds after) s progress).1 =
        .error (exhaustion config unit tried.length) ∧
      (findMinBound config unit (judge succeeds after) s progress).2.2.1 =
        tried.foldl (fun s bound => after bound s) s := by
  have hreach : ∀ j, j < coarseCount config → config.coarseBound j ≤ config.maxBound :=
    fun j hj => (coarseBound_le_iff hmax j).2 hj
  obtain ⟨final, hstretch, hfinal⟩ := coarse_stretch config unit succeeds after
    (coarseCount config) 0 (opening config s progress) (SearchState.start_eq config)
    (fun j _ hj => hreach j (by omega)) (fun j _ hj => hfail j (hreach j (by omega)))
  rw [Nat.zero_add] at hfinal
  have hexceeded : config.maxBound < final.state.bound := by
    have hnot : ¬ config.coarseBound (coarseCount config) ≤ config.maxBound := by
      rw [coarseBound_le_iff hmax]
      exact Nat.lt_irrefl _
    rw [hfinal]
    exact UInt64.not_le.1 hnot
  obtain ⟨hresult, hstate⟩ := findMinBound_of_exceeded hstretch hexceeded
  refine ⟨_, ?_, hresult, hstate⟩
  rw [List.length_map, List.length_map, List.length_range']

/-! ## The minimal choices -/

/-- If a coarse bound within reach succeeds, there is a first one. -/
theorem exists_first_success
    (h : ∃ k, config.coarseBound k ≤ config.maxBound ∧ succeeds (config.coarseBound k) = true) :
    ∃ k, IsLeast {k | config.coarseBound k ≤ config.maxBound ∧
      succeeds (config.coarseBound k) = true} k := by
  refine ⟨Nat.find h, Nat.find_spec h, ?_⟩
  intro k hk
  exact Nat.find_min' h hk

/-- The coarse bounds before the first that succeeds all fail. -/
theorem fails_before_first {k : Nat}
    (hleast : IsLeast {k | config.coarseBound k ≤ config.maxBound ∧
      succeeds (config.coarseBound k) = true} k) :
    ∀ j < k, succeeds (config.coarseBound j) = false := by
  intro j hj
  apply Bool.eq_false_iff.2
  intro hsuccess
  have hreach := UInt64.le_trans (coarseBound_mono config (Nat.le_of_lt hj)) hleast.1.1
  have := hleast.2 ⟨hreach, hsuccess⟩
  omega

/-- From the restart on there is a least bound that succeeds, at the latest the first success. -/
theorem exists_least_bound (config : SearchConfig) {first : UInt64} (hone : 1 ≤ first.toNat)
    (hfirst : succeeds first = true) :
    ∃ bound : UInt64, IsLeast {b : UInt64 | config.restart first ≤ b.toNat ∧ b ≤ first ∧
      succeeds b = true} bound := by
  have hexists : ∃ n, config.restart first ≤ n ∧ n ≤ first.toNat ∧
      succeeds (clampWord n) = true :=
    ⟨first.toNat, config.restart_le hone, Nat.le_refl _, by rw [clampWord_toNat]; exact hfirst⟩
  obtain ⟨hlow, hhigh, hbound⟩ := Nat.find_spec hexists
  have hword : (clampWord (Nat.find hexists)).toNat = Nat.find hexists :=
    toNat_clampWord_of_le hhigh
  refine ⟨clampWord (Nat.find hexists), ⟨?_, ?_, hbound⟩, ?_⟩
  · rw [hword]
    exact hlow
  · rw [UInt64.le_iff_toNat_le, hword]
    exact hhigh
  · rintro b ⟨hblow, hbhigh, hb⟩
    rw [UInt64.le_iff_toNat_le] at hbhigh ⊢
    rw [hword]
    exact Nat.find_min' hexists ⟨hblow, hbhigh, by rw [clampWord_toNat]; exact hb⟩

/-- The bounds below the least one that succeeds all fail, from the restart on. -/
theorem fails_below_least {first bound : UInt64}
    (hleast : IsLeast {b : UInt64 | config.restart first ≤ b.toNat ∧ b ≤ first ∧
      succeeds b = true} bound) :
    ∀ b, config.restart first ≤ b → b < bound.toNat → succeeds (clampWord b) = false := by
  intro b hlow hb
  apply Bool.eq_false_iff.2
  intro hsuccess
  have hword : (clampWord b).toNat = b := toNat_clampWord_of_le (Nat.le_of_lt hb)
  have hhigh := UInt64.le_iff_toNat_le.1 hleast.1.2.1
  have hmem : clampWord b ∈ {b : UInt64 | config.restart first ≤ b.toNat ∧ b ≤ first ∧
      succeeds b = true} := by
    refine ⟨?_, ?_, hsuccess⟩
    · rw [hword]
      exact hlow
    · rw [UInt64.le_iff_toNat_le, hword]
      omega
  have := UInt64.le_iff_toNat_le.1 (hleast.2 hmem)
  omega

/-- The end of a search for a predicate in terms of its two minimal choices. -/
theorem findMinBound_of_isLeast (config : SearchConfig) (unit : String)
    (after : UInt64 → σ → σ) (s : σ) (progress : Progress) {k : Nat} {bound : UInt64}
    (hk : IsLeast {k | config.coarseBound k ≤ config.maxBound ∧
      succeeds (config.coarseBound k) = true} k)
    (hbound : IsLeast {b : UInt64 | config.restart (config.coarseBound k) ≤ b.toNat ∧
      b ≤ config.coarseBound k ∧ succeeds b = true} bound) :
    ∃ tried : List UInt64,
      tried.length = k + 1 + (bound.toNat - config.restart (config.coarseBound k)) +
        max config.confirmations 1 ∧
      (findMinBound config unit (judge succeeds after) s progress).1 =
        .ok { bound, trials := tried.length, firstSuccess := some (config.coarseBound k) } ∧
      (findMinBound config unit (judge succeeds after) s progress).2.2.1 =
        tried.foldl (fun s bound => after bound s) s := by
  have hend := findMinBound_of_least unit after s progress hk.1.1 (fails_before_first hk) hk.1.2 hbound.1.1
    (UInt64.le_iff_toNat_le.1 hbound.1.2.1) (fails_below_least hbound)
    (by rw [clampWord_toNat]; exact hbound.1.2.2)
  rw [clampWord_toNat] at hend
  exact hend

/-- What a search finds for a predicate of the bound. If a coarse bound within reach succeeds, the
answer is the least bound that succeeds between the restart and the first such coarse bound, whatever
the number of confirmations; the trials are those of the coarse phase, one for each bound below the
answer, and the confirmations. If none succeeds and the largest bound is below the largest word, every
coarse bound within reach is tried once, and the search is exhausted. In both cases `tried` lists the
trials made. -/
theorem findMinBound_predicate (config : SearchConfig) (unit : String) (succeeds : UInt64 → Bool)
    (after : UInt64 → σ → σ) (s : σ) (progress : Progress) :
    ((∃ k, config.coarseBound k ≤ config.maxBound ∧ succeeds (config.coarseBound k) = true) →
      ∃ (k : Nat) (bound : UInt64),
        IsLeast {k | config.coarseBound k ≤ config.maxBound ∧
          succeeds (config.coarseBound k) = true} k ∧
        IsLeast {b : UInt64 | config.restart (config.coarseBound k) ≤ b.toNat ∧
          b ≤ config.coarseBound k ∧ succeeds b = true} bound ∧
        ∀ confirmations : Nat, ∃ tried : List UInt64,
          tried.length = k + 1 + (bound.toNat - config.restart (config.coarseBound k)) +
            max confirmations 1 ∧
          (findMinBound { config with confirmations } unit (judge succeeds after) s progress).1 =
            .ok { bound, trials := tried.length, firstSuccess := some (config.coarseBound k) } ∧
          (findMinBound { config with confirmations } unit (judge succeeds after) s
            progress).2.2.1 = tried.foldl (fun s bound => after bound s) s) ∧
    ((∀ k, config.coarseBound k ≤ config.maxBound → succeeds (config.coarseBound k) = false) →
      config.maxBound.toNat < maxWord →
      ∃ tried : List UInt64,
        tried.length = {k | config.coarseBound k ≤ config.maxBound}.ncard ∧
        (findMinBound config unit (judge succeeds after) s progress).1 =
          .error (exhaustion config unit tried.length) ∧
        (exhaustion config unit tried.length).kind = .searchExhausted ∧
        (findMinBound config unit (judge succeeds after) s progress).2.2.1 =
          tried.foldl (fun s bound => after bound s) s) := by
  constructor
  · intro hsuccess
    obtain ⟨k, hk⟩ := exists_first_success hsuccess
    obtain ⟨bound, hbound⟩ := exists_least_bound config
      (config.one_le_toNat_coarseBound k) hk.1.2
    exact ⟨k, bound, hk, hbound, fun confirmations =>
      findMinBound_of_isLeast { config with confirmations } unit after s progress hk hbound⟩
  · intro hfail hmax
    rw [ncard_coarseBound_le hmax]
    obtain ⟨tried, hlength, hresult, hstate⟩ :=
      findMinBound_of_none unit after s progress hmax hfail
    exact ⟨tried, hlength, hresult, rfl, hstate⟩

/-- A predicate that is not monotone: of the multiples of seven, the coarse bounds meet 70 first, and
63 is the least from the restart at 61 on. With a largest bound of 65 they meet none. -/
theorem findMinBound_multiples_of_seven :
    let succeeds := fun bound : UInt64 => bound % 7 == 0
    let search := findMinBound {} "MB" (judge succeeds fun _ n => n + 1) 0 { isTerminal := true }
    let short :=
      findMinBound { maxBound := 65 } "MB" (judge succeeds fun _ n => n + 1) 0 { isTerminal := true }
    search.1 = .ok { bound := 63, trials := 19, firstSuccess := some 70 } ∧
      ∃ failure, short.1 = .error failure ∧ failure.kind = .searchExhausted ∧ short.2.2.1 = 6 := by
  intro succeeds search short
  constructor
  · obtain ⟨k, bound, hk, hbound, hfound⟩ :=
      (findMinBound_predicate {} "MB" succeeds (fun _ n => n + 1) 0
        { isTerminal := true }).1 ⟨6, by decide⟩
    have hk6 : k = 6 := by
      have hle : k ≤ 6 := hk.2 ⟨by decide, by decide⟩
      have hsuccess := hk.1.2
      interval_cases k <;> revert hsuccess <;> decide
    subst hk6
    have h63 : bound = 63 := by
      have hle : bound ≤ 63 := hbound.2 ⟨by decide, by decide, by decide⟩
      have hlow : 61 ≤ bound.toNat := hbound.1.1
      have hsuccess := hbound.1.2.2
      rw [UInt64.le_iff_toNat_le, show (63 : UInt64).toNat = 63 from rfl] at hle
      rw [← clampWord_toNat bound] at hsuccess ⊢
      generalize bound.toNat = n at hle hlow hsuccess ⊢
      interval_cases n <;> revert hsuccess <;> decide
    subst h63
    obtain ⟨tried, hlength, hresult, -⟩ := hfound 10
    have hnineteen : tried.length = 19 := hlength
    rw [hnineteen] at hresult
    exact hresult
  · let config : SearchConfig := { maxBound := 65 }
    have hmax : config.maxBound.toNat < maxWord := by decide
    have hcount : coarseCount config = 6 := by decide
    have hfail : ∀ k, config.coarseBound k ≤ config.maxBound →
        succeeds (config.coarseBound k) = false := by
      intro k hreach
      rw [coarseBound_le_iff hmax, hcount] at hreach
      interval_cases k <;> decide
    obtain ⟨tried, hlength, herror, hkind, hstate⟩ :=
      (findMinBound_predicate config "MB" succeeds (fun _ n => n + 1) 0
        { isTerminal := true }).2 hfail hmax
    rw [ncard_coarseBound_le hmax, hcount] at hlength
    rw [List.foldl_const, hlength] at hstate
    exact ⟨_, herror, hkind, hstate⟩

end RunMeter.Search
