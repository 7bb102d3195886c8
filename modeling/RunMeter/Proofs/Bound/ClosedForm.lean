import Mathlib.Data.List.DropRight
import RunMeter.Proofs.Bound.Phases

/-!
# A bound search in closed form

`SearchState.follow` feeds a state the outcomes of trials one by one and does not stop at an answer.
Where it leads from the start of a search depends on three things only: how many trials there were
before the first success, how many of the later ones failed, and how many have succeeded since the
last failure. `follow_failures` is the coarse phase and `follow_first_success` the confirm phase, and
`confirm_answer` says which trials have an answer. A row of trials of a search is followed in the
same way (`Search.Stretch.state_eq_follow`).
-/

set_option autoImplicit false

namespace RunMeter

namespace SearchState

variable {config : SearchConfig}

/-- The state after a string of outcomes, past any answers on the way. -/
def follow (config : SearchConfig) (state : SearchState) (outcomes : List Bool) : SearchState :=
  outcomes.foldl (fun state succeeded => (state.advance config succeeded).2) state

theorem follow_concat (state : SearchState) (outcomes : List Bool) (succeeded : Bool) :
    follow config state (outcomes ++ [succeeded]) =
      ((follow config state outcomes).advance config succeeded).2 := by
  rw [follow, List.foldl_append]
  rfl

/-- The length of the run of successes that a string of outcomes ends with. -/
def streak (outcomes : List Bool) : Nat := (outcomes.rtakeWhile id).length

@[simp]
theorem streak_success (outcomes : List Bool) : streak (outcomes ++ [true]) = streak outcomes + 1 := by
  rw [streak, List.rtakeWhile_concat_pos id outcomes true rfl, List.length_append,
    List.length_singleton, streak]

@[simp]
theorem streak_failure (outcomes : List Bool) : streak (outcomes ++ [false]) = 0 := by
  rw [streak, List.rtakeWhile_concat_neg id outcomes false Bool.false_ne_true, List.length_nil]

/-- Before the first success every trial raises the bound by the step. -/
theorem follow_failures (config : SearchConfig) (n : Nat) :
    follow config (start config) (List.replicate n false) = config.coarseState n := by
  induction n with
  | zero => exact start_eq config
  | succ n ih => rw [List.replicate_succ', follow_concat, ih, advance_coarse_failure]

/-- After the first success every failure raises the bound by one and ends a run of successes. -/
theorem follow_first_success (config : SearchConfig) (p : Nat) (later : List Bool) :
    follow config (start config) (List.replicate p false ++ true :: later) =
      confirmState (config.coarseBound p)
        (config.restart (config.coarseBound p) + later.count false)
        (p + 1 + later.length) (streak later) := by
  induction later using List.reverseRecOn with
  | nil => rw [follow_concat, follow_failures, advance_coarse_success]; rfl
  | append_singleton later succeeded ih =>
    rw [← List.cons_append, ← List.append_assoc, follow_concat, ih, List.length_append,
      List.count_append]
    cases succeeded with
    | false => rw [advance_confirm_failure, streak_failure]; rfl
    | true => rw [advance_confirm_success, streak_success]; rfl

theorem eq_replicate_of_notMem {outcomes : List Bool} (h : true ∉ outcomes) :
    outcomes = List.replicate outcomes.length false :=
  List.eq_replicate_iff.2 ⟨rfl, fun _ hb => Bool.eq_false_iff.2 fun htrue => h (htrue ▸ hb)⟩

/-- A string of outcomes with a success has a first one. -/
theorem exists_replicate_append {outcomes : List Bool} (h : true ∈ outcomes) :
    ∃ p later, outcomes = List.replicate p false ++ true :: later := by
  obtain ⟨before, later, rfl, hbefore⟩ := List.eq_append_cons_of_mem h
  refine ⟨before.length, later, ?_⟩
  rw [← eq_replicate_of_notMem hbefore]

/-- The coarse phase has no answers, not even for the success that ends it. -/
theorem coarse_answer (k : Nat) (succeeded : Bool) :
    ((config.coarseState k).advance config succeeded).1 = none := by
  cases succeeded with
  | false => rw [advance_coarse_failure]
  | true => rw [advance_coarse_success]

/-- In the confirm phase every success has an answer once the run of successes is long enough. -/
theorem confirm_answer (first : UInt64) (bound trials successes : Nat) (succeeded : Bool) :
    let next := (confirmState first bound trials successes).advance config succeeded
    next.1 = if succeeded = true ∧ max config.confirmations 1 ≤ next.2.successes then
      some (clampWord bound) else none := by
  intro next
  cases succeeded with
  | false =>
    rw [if_neg fun h => Bool.false_ne_true h.1]
    exact congrArg Prod.fst (advance_confirm_failure first bound trials successes)
  | true =>
    simp only [next, advance_confirm_success, true_and]
    rfl

/-- Where a search stands after any string of outcomes, also past an answer, and which outcome has an
answer next. Before the first success the bound has been raised by the step each time. If the first
success is the one after `p` failures, the bound has then dropped once to just above the coarse
failure before it and has risen by one with each later failure, and the successes are those since
the last failure. An answer comes with each success after the first that finds the run of successes
long enough, and with no other outcome. -/
theorem follow_closed_form (config : SearchConfig) (outcomes : List Bool) :
    let initial := (atLeastOne config.initialBound).toNat
    let step := (atLeastOne config.coarseStep).toNat
    let state := follow config (start config) outcomes
    (true ∉ outcomes →
      state =
        { phase := .coarse
          bound := clampWord (initial + outcomes.length * step)
          step := atLeastOne config.coarseStep
          successes := 0
          trials := outcomes.length
          firstSuccess := none } ∧
      ∀ succeeded, (state.advance config succeeded).1 = none) ∧
    (∀ p later, outcomes = List.replicate p false ++ true :: later →
      let first := clampWord (initial + p * step)
      state =
        { phase := .confirm
          bound := clampWord (max 1 (first.toNat - (step - 1)) + later.count false)
          step := 1
          successes := streak later
          trials := outcomes.length
          firstSuccess := some first } ∧
      ∀ succeeded, (state.advance config succeeded).1 =
        if succeeded = true ∧
            max config.confirmations 1 ≤ (state.advance config succeeded).2.successes then
          some state.bound
        else none) ∧
    (true ∈ outcomes → ∃ p later, outcomes = List.replicate p false ++ true :: later) := by
  intro initial step state
  refine ⟨?_, ?_, exists_replicate_append⟩
  · intro hnone
    have hstate : state = config.coarseState outcomes.length := by
      rw [← follow_failures, ← eq_replicate_of_notMem hnone]
    refine ⟨hstate, ?_⟩
    rw [hstate]
    exact coarse_answer outcomes.length
  · intro p later houtcomes first
    have htrials : p + 1 + later.length = outcomes.length := by
      rw [houtcomes, List.length_append, List.length_replicate, List.length_cons]
      omega
    have hstate : state = confirmState first
        (max 1 (first.toNat - (step - 1)) + later.count false) outcomes.length (streak later) := by
      rw [← htrials]
      simp only [state, houtcomes]
      exact follow_first_success config p later
    refine ⟨hstate, ?_⟩
    rw [hstate]
    exact confirm_answer first _ outcomes.length (streak later)

/-- A run of successes that a failure breaks. The second run has its answer at its second success,
one above the restart, and again at its third. -/
theorem follow_broken_streak :
    let config : SearchConfig := { confirmations := 2 }
    let outcomes := [false, true, true, false, true, true]
    follow config (start config) outcomes =
        { phase := .confirm
          bound := 12
          step := 1
          successes := 2
          trials := 6
          firstSuccess := some 20 } ∧
      ((follow config (start config) outcomes).advance config true).1 = some 12 := by
  intro config outcomes
  obtain ⟨hstate, hanswer⟩ := (follow_closed_form config outcomes).2.1 1 [true, false, true, true] rfl
  refine ⟨hstate, ?_⟩
  rw [hanswer true, hstate]
  rfl

end SearchState

/-- The trials of a search are followed outcome by outcome. -/
theorem Search.Stretch.state_eq_follow {σ : Type} {config : SearchConfig} {unit : String}
    {trial : UInt64 → σ → Bool × σ} {run final : SearchRun σ} {tried : List (UInt64 × Bool)}
    (stretch : Stretch config unit trial run tried final) :
    final.state = SearchState.follow config run.state (tried.map Prod.snd) := by
  induction stretch with
  | nil => rfl
  | cons _ _ _ ih =>
    rw [ih, attempt_state]
    rfl

end RunMeter
