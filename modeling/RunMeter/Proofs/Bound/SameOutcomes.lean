import RunMeter.Proofs.Bound.Course

/-!
# Searches with the same outcomes

A search sees of a trial whether it has succeeded, and nothing else. So two searches whose trials may
have nothing in common go the same way as long as their outcomes are the same, and it is enough to
compare the outcomes as far as both records go: where they part for the first time, both searches
still make that trial (`loop_of_same_outcomes`). Then the verdict, the bounds tried and all that has
been shown are the same (`findMinBound_of_same_outcomes`).
-/

set_option autoImplicit false

namespace RunMeter.Search

variable {σ τ : Type} {config : SearchConfig} {unit : String} {trial : UInt64 → σ → Bool × σ}
  {other : UInt64 → τ → Bool × τ}

/-- A record only grows. -/
theorem record_isPrefix (rounds : Nat) (run : SearchRun (σ × List (UInt64 × Bool))) :
    run.trialState.2 <+: (loop config unit (recording trial) rounds run).2.trialState.2 := by
  have hstep : ∀ bound (s : σ × List (UInt64 × Bool)), run.trialState.2 <+: s.2 →
      run.trialState.2 <+: (recording trial bound s).2.2 := by
    intro bound s hs
    exact hs.trans (List.prefix_append s.2 _)
  exact loop_preserves hstep rounds run (List.prefix_refl _)

/-- A bound within reach is tried, and its outcome recorded. -/
theorem record_after_attempt (rounds : Nat) (run : SearchRun (σ × List (UInt64 × Bool)))
    (inReach : ¬ config.maxBound < run.state.bound) :
    run.trialState.2 ++ [(run.state.bound, (trial run.state.bound run.trialState.1).1)] <+:
      (loop config unit (recording trial) (rounds + 1) run).2.trialState.2 := by
  have hrecord : (attempt config unit (recording trial) run).2.trialState.2 =
      run.trialState.2 ++ [(run.state.bound, (trial run.state.bound run.trialState.1).1)] := rfl
  rw [loop_succ, if_neg inReach, ← hrecord]
  rcases attempt config unit (recording trial) run with ⟨_ | bound, next⟩
  · exact record_isPrefix rounds next
  · exact List.prefix_refl _

/-- Two loops that begin alike end alike, if their records have the same outcomes as far as both
go. -/
theorem loop_of_same_outcomes (rounds : Nat) {run : SearchRun (σ × List (UInt64 × Bool))}
    {run' : SearchRun (τ × List (UInt64 × Bool))} (hstate : run'.state = run.state)
    (hprogress : run'.progress = run.progress) (hrecord : run'.trialState.2 = run.trialState.2)
    (hsame : ∀ (i : Nat) (t t' : UInt64 × Bool),
      (loop config unit (recording trial) rounds run).2.trialState.2[i]? = some t →
      (loop config unit (recording other) rounds run').2.trialState.2[i]? = some t' →
      t.2 = t'.2) :
    let last := loop config unit (recording trial) rounds run
    let last' := loop config unit (recording other) rounds run'
    last'.1 = last.1 ∧ last'.2.state = last.2.state ∧ last'.2.progress = last.2.progress ∧
      last'.2.trialState.2 = last.2.trialState.2 := by
  induction rounds generalizing run run' with
  | zero => exact ⟨rfl, hstate, hprogress, hrecord⟩
  | succ rounds ih =>
    by_cases hexceeded : config.maxBound < run.state.bound
    · have hexceeded' : config.maxBound < run'.state.bound := hstate ▸ hexceeded
      rw [loop_succ, loop_succ, if_pos hexceeded, if_pos hexceeded', hstate]
      exact ⟨rfl, rfl, congrArg Progress.finish hprogress, hrecord⟩
    · have hexceeded' : ¬ config.maxBound < run'.state.bound := hstate ▸ hexceeded
      -- The outcomes of this trial stand at the same place of both records.
      have houtcome : (other run.state.bound run'.trialState.1).1 =
          (trial run.state.bound run.trialState.1).1 := by
        obtain ⟨rest, hrest⟩ := record_after_attempt rounds run hexceeded
        obtain ⟨rest', hrest'⟩ := record_after_attempt rounds run' hexceeded'
        rw [hstate, hrecord] at hrest'
        refine (hsame run.trialState.2.length (run.state.bound, _) (run.state.bound, _) ?_ ?_).symm
        · rw [← hrest, List.append_assoc, List.getElem?_append_right (Nat.le_refl _), Nat.sub_self]
          rfl
        · rw [← hrest', List.append_assoc, List.getElem?_append_right (Nat.le_refl _), Nat.sub_self]
          rfl
      obtain ⟨hanswer, hnext, hshown, hmade⟩ :
          (attempt config unit (recording other) run').1 =
              (attempt config unit (recording trial) run).1 ∧
            (attempt config unit (recording other) run').2.state =
              (attempt config unit (recording trial) run).2.state ∧
            (attempt config unit (recording other) run').2.progress =
              (attempt config unit (recording trial) run).2.progress ∧
            (attempt config unit (recording other) run').2.trialState.2 =
              (attempt config unit (recording trial) run).2.trialState.2 := by
        simp only [attempt, recording, hstate, houtcome, hprogress, hrecord, and_self]
      rw [loop_succ, loop_succ, if_neg hexceeded, if_neg hexceeded'] at hsame ⊢
      revert hanswer hnext hshown hmade hsame
      rcases attempt config unit (recording trial) run with ⟨answer, next⟩
      rcases attempt config unit (recording other) run' with ⟨answer', next'⟩
      rintro hsame rfl hnext hshown hmade
      cases answer' with
      | none => exact ih hnext hshown hmade hsame
      | some bound =>
        dsimp only at hnext hshown hmade ⊢
        rw [hnext, hshown, hmade]
        exact ⟨rfl, rfl, rfl, rfl⟩

/-- Two searches that end go the same way, if their outcomes are the same as far as both go. -/
theorem findMinBound_of_same_outcomes {s : σ} {s' : τ} {progress : Progress}
    (hends : Ends config unit (recording trial) (s, []) progress)
    (hends' : Ends config unit (recording other) (s', []) progress)
    (hsame : ∀ (i : Nat) (t t' : UInt64 × Bool),
      (history config unit trial s progress)[i]? = some t →
      (history config unit other s' progress)[i]? = some t' → t.2 = t'.2) :
    history config unit other s' progress = history config unit trial s progress ∧
      (findMinBound config unit other s' progress).1 =
        (findMinBound config unit trial s progress).1 ∧
      (findMinBound config unit other s' progress).2.1 =
        (findMinBound config unit trial s progress).2.1 ∧
      (findMinBound config unit other s' progress).2.2.2 =
        (findMinBound config unit trial s progress).2.2.2 := by
  obtain ⟨rounds, verdict, last, hloop⟩ := hends.exists_rounds
  obtain ⟨rounds', verdict', last', hloop'⟩ := hends'.exists_rounds
  have hend := hloop (max rounds rounds') (Nat.le_max_left _ _)
  have hend' := hloop' (max rounds rounds') (Nat.le_max_right _ _)
  obtain ⟨hhistory, hsearch⟩ := search_of_loop hend
  obtain ⟨hhistory', hsearch'⟩ := search_of_loop hend'
  rw [hhistory, hhistory'] at hsame ⊢
  rw [hsearch, hsearch']
  obtain ⟨hverdict, -, hshown, hrecord⟩ :=
    @loop_of_same_outcomes σ τ config unit trial other (max rounds rounds')
      (opening config (s, []) progress) (opening config (s', []) progress) rfl rfl rfl
      (by rw [hend, hend']; exact hsame)
  rw [hend, hend'] at hverdict hshown hrecord
  cases hverdict
  exact ⟨hrecord, rfl, rfl, hshown⟩

end RunMeter.Search
