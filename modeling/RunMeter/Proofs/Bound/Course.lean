import RunMeter.Proofs.Bound.LeastBound

/-!
# The course of a bound search

Whatever the outcomes of its trials, a search goes one way: coarse failures one step apart, then a
first success, then a climb. `Climb` is a row of trials of the confirm phase, in which a failure
leads to the next bound and fewer successes than required stand in a row. `Course` is a whole row of
trials without an answer, with the state it leads to. One trial keeps a course a course
(`Course.advance`), so every row of trials from the start is one (`Stretch.course`).

`history` is what a search tries: the same search over trials that keep a record, which changes
nothing else (`loop_recording`). `Ending` says what such a history looks like once the search has
ended, and below the largest word every search ends (`exists_ending`): a course within reach has at
most `trialLimit` trials, and so one more round sees the end of it.
-/

set_option autoImplicit false

namespace RunMeter

/-- How many trials a search has made, by its verdict. -/
def SearchEnd.trials : SearchEnd → Nat
  | .found outcome => outcome.trials
  | .exhausted trials => trials

namespace Search

open SearchState

variable {σ : Type} {config : SearchConfig} {unit : String} {trial : UInt64 → σ → Bool × σ}

/-! ## Climbs -/

/-- The trials of a confirm phase that begins at a bound, with the bound they lead to and the
successes in a row there, fewer than the limit. -/
inductive Climb (limit low : Nat) : List (UInt64 × Bool) → Nat → Nat → Prop
  | start : Climb limit low [] low 0
  | failure {made : List (UInt64 × Bool)} {bound row : Nat}
      (climb : Climb limit low made bound row) :
      Climb limit low (made ++ [(clampWord bound, false)]) (bound + 1) 0
  | success {made : List (UInt64 × Bool)} {bound row : Nat} (climb : Climb limit low made bound row)
      (hfew : row + 1 < limit) :
      Climb limit low (made ++ [(clampWord bound, true)]) bound (row + 1)

namespace Climb

variable {limit low bound row : Nat} {made : List (UInt64 × Bool)}

theorem low_le (climb : Climb limit low made bound row) : low ≤ bound := by
  induction climb with
  | start => exact Nat.le_refl low
  | failure _ ih => omega
  | success _ _ ih => exact ih

/-- There are fewer successes in a row than required. -/
theorem row_lt (climb : Climb limit low made bound row) (hlimit : 0 < limit) : row < limit := by
  cases climb with
  | start => exact hlimit
  | failure _ => exact hlimit
  | success _ hfew => exact hfew

/-- The climb tries its current bound as often as it has succeeded there, and every bound below it
no more often than the limit. -/
theorem length_le (climb : Climb limit low made bound row) (hlimit : 0 < limit) :
    made.length ≤ limit * (bound - low) + row := by
  induction climb with
  | start => exact Nat.zero_le _
  | @failure made bound row climb ih =>
    have hrow := climb.row_lt hlimit
    have hstep : bound + 1 - low = bound - low + 1 := Nat.succ_sub climb.low_le
    rw [List.length_append, List.length_singleton, hstep, Nat.mul_succ]
    omega
  | success _ _ ih =>
    rw [List.length_append, List.length_singleton]
    omega

/-- The successes in a row are the last trials, and all of them are at the current bound. -/
theorem exists_streak (climb : Climb limit low made bound row) :
    ∃ earlier, made = earlier ++ List.replicate row (clampWord bound, true) := by
  induction climb with
  | start => exact ⟨[], rfl⟩
  | @failure made bound row _ _ => exact ⟨made ++ [(clampWord bound, false)], by simp⟩
  | success _ _ ih =>
    obtain ⟨earlier, rfl⟩ := ih
    exact ⟨earlier, by rw [List.append_assoc, ← List.replicate_succ']⟩

/-- If every bound tried is within reach, the climb is within reach as well or has just left it. -/
theorem bound_le_or {top : UInt64} (climb : Climb limit low made bound row)
    (htop : top.toNat < maxWord) (hlow : low ≤ top.toNat + 1)
    (hreach : ∀ t ∈ made, t.1 ≤ top) :
    bound ≤ top.toNat ∨ bound = top.toNat + 1 ∧ row = 0 := by
  -- A bound that has been tried is not cut off, since the largest bound is below the largest word.
  have htried : ∀ {b : Nat}, clampWord b ≤ top → b ≤ top.toNat := by
    intro b hb
    rw [UInt64.le_iff_toNat_le, toNat_clampWord] at hb
    omega
  cases climb with
  | start => omega
  | @failure made bound row _ =>
    have := htried (hreach (clampWord bound, false) (by simp))
    omega
  | @success made bound row _ _ =>
    exact Or.inl (htried (hreach (clampWord bound, true) (by simp)))

/-- The climb has risen by one with every failure. -/
theorem bound_eq (climb : Climb limit low made bound row) :
    bound = low + made.countP fun t => !t.2 := by
  induction climb with
  | start => rfl
  | failure _ ih =>
    rw [List.countP_append, List.countP_singleton, ih]
    rfl
  | success _ _ ih =>
    rw [List.countP_append, List.countP_singleton, ih]
    rfl

/-- Every bound that the climb has passed has failed once, and no other bound has failed. -/
theorem count_failure (climb : Climb limit low made bound row) (hbound : bound ≤ maxWord)
    (x : UInt64) :
    made.count (x, false) = if low ≤ x.toNat ∧ x.toNat < bound then 1 else 0 := by
  induction climb with
  | start =>
    rw [List.count_nil, if_neg (by omega)]
  | @failure made bound row climb ih =>
    have hlow := climb.low_le
    have hword : (clampWord bound).toNat = bound := by
      rw [toNat_clampWord]
      omega
    rw [List.count_append, ih (by omega), List.count_singleton]
    by_cases hx : x = clampWord bound
    · have hhere : low ≤ x.toNat ∧ x.toNat < bound + 1 := by
        rw [hx, hword]
        omega
      have hbefore : ¬ (low ≤ x.toNat ∧ x.toNat < bound) := by
        rw [hx, hword]
        omega
      rw [if_neg hbefore, if_pos hhere, hx, beq_self_eq_true, if_pos rfl]
    · have hne : x.toNat ≠ bound := by
        intro heq
        apply hx
        rw [← heq, clampWord_toNat]
      have hpair : ¬ ((clampWord bound, false) == (x, false)) = true := by
        rw [beq_iff_eq, Prod.mk.injEq]
        exact fun h => hx h.1.symm
      have hsame : (low ≤ x.toNat ∧ x.toNat < bound) ↔ (low ≤ x.toNat ∧ x.toNat < bound + 1) := by
        omega
      simp only [if_neg hpair, hsame, Nat.add_zero]
  | @success made bound row _ _ ih =>
    have hpair : ¬ ((clampWord bound, true) == (x, false)) = true := by simp
    rw [List.count_append, ih hbound, List.count_singleton, if_neg hpair, Nat.add_zero]

/-- No bound below the first one is tried. -/
theorem low_le_of_mem (climb : Climb limit low made bound row) (hlow : low ≤ maxWord)
    {t : UInt64 × Bool} (ht : t ∈ made) : low ≤ t.1.toNat := by
  induction climb with
  | start => cases ht
  | failure climb ih =>
    have := climb.low_le
    rcases List.mem_append.1 ht with ht | ht
    · exact ih ht
    · rw [List.mem_singleton.1 ht, toNat_clampWord]
      omega
  | success climb _ ih =>
    have := climb.low_le
    rcases List.mem_append.1 ht with ht | ht
    · exact ih ht
    · rw [List.mem_singleton.1 ht, toNat_clampWord]
      omega

end Climb

/-! ## Courses -/

/-- The first coarse trials, if all of them fail. -/
def coarseFailures (config : SearchConfig) (n : Nat) : List (UInt64 × Bool) :=
  (List.range n).map fun k => (config.coarseBound k, false)

@[simp]
theorem length_coarseFailures (config : SearchConfig) (n : Nat) :
    (coarseFailures config n).length = n := by
  rw [coarseFailures, List.length_map, List.length_range]

theorem coarseFailures_succ (config : SearchConfig) (n : Nat) :
    coarseFailures config (n + 1) = coarseFailures config n ++ [(config.coarseBound n, false)] := by
  rw [coarseFailures, List.range_succ, List.map_append]
  rfl

/-- A climb from the restart after a first success at coarse trial `k`. -/
abbrev ClimbAfter (config : SearchConfig) (k : Nat) : List (UInt64 × Bool) → Nat → Nat → Prop :=
  Climb (max config.confirmations 1) (config.restart (config.coarseBound k))

/-- The trials of a search that has no answer yet, with the state they lead to. -/
inductive Course (config : SearchConfig) : List (UInt64 × Bool) → SearchState → Prop
  | coarse (k : Nat) : Course config (coarseFailures config k) (config.coarseState k)
  | confirm {k bound row : Nat} {made : List (UInt64 × Bool)}
      (climb : ClimbAfter config k made bound row) :
      Course config (coarseFailures config k ++ (config.coarseBound k, true) :: made)
        (confirmState (config.coarseBound k) bound (k + 1 + made.length) row)

/-- A search begins with the course without a trial. -/
theorem Course.start (config : SearchConfig) : Course config [] (.start config) := by
  rw [start_eq]
  exact .coarse 0

/-- One more trial without an answer continues the course. -/
theorem Course.advance {tried : List (UInt64 × Bool)} {state : SearchState}
    (course : Course config tried state) {succeeded : Bool}
    (noAnswer : (state.advance config succeeded).1 = none) :
    Course config (tried ++ [(state.bound, succeeded)]) (state.advance config succeeded).2 := by
  cases course with
  | coarse k =>
    cases succeeded with
    | false =>
      rw [advance_coarse_failure]
      change Course config (coarseFailures config k ++ [(config.coarseBound k, false)]) _
      rw [← coarseFailures_succ]
      exact .coarse (k + 1)
    | true =>
      rw [advance_coarse_success]
      exact .confirm .start
  | @confirm k bound row made climb =>
    cases succeeded with
    | false =>
      have hmore := Course.confirm climb.failure
      rw [List.length_append, List.length_singleton, ← Nat.add_assoc] at hmore
      rw [advance_confirm_failure, List.append_assoc]
      exact hmore
    | true =>
      rw [advance_confirm_success] at noAnswer ⊢
      have hfew : row + 1 < max config.confirmations 1 := by
        by_contra hlong
        rw [if_pos (Nat.le_of_not_lt hlong)] at noAnswer
        cases noAnswer
      have hmore := Course.confirm (climb.success hfew)
      rw [List.length_append, List.length_singleton, ← Nat.add_assoc] at hmore
      rw [List.append_assoc]
      exact hmore

/-- A row of trials continues the course before it. -/
theorem Stretch.course {run final : SearchRun σ} {before tried : List (UInt64 × Bool)}
    (stretch : Stretch config unit trial run tried final)
    (course : Course config before run.state) : Course config (before ++ tried) final.state := by
  induction stretch generalizing before with
  | nil =>
    rw [List.append_nil]
    exact course
  | cons inReach noAnswer _ ih =>
    rw [List.append_cons]
    exact ih (course.advance noAnswer)

/-- Every trial of a row is within reach. -/
theorem Stretch.reach {run final : SearchRun σ} {tried : List (UInt64 × Bool)}
    (stretch : Stretch config unit trial run tried final) :
    ∀ t ∈ tried, t.1 ≤ config.maxBound := by
  induction stretch with
  | nil =>
    intro t ht
    cases ht
  | cons inReach _ _ ih => exact List.forall_mem_cons.2 ⟨inReach, ih⟩

/-- A course tries no bound below one. -/
theorem Course.one_le {tried : List (UInt64 × Bool)} {state : SearchState}
    (course : Course config tried state) : ∀ t ∈ tried, 1 ≤ t.1.toNat := by
  have hfailures : ∀ k, ∀ t ∈ coarseFailures config k, 1 ≤ t.1.toNat := by
    intro k t ht
    obtain ⟨j, -, rfl⟩ := List.mem_map.1 ht
    exact config.one_le_toNat_coarseBound j
  cases course with
  | coarse k => exact hfailures k
  | @confirm k bound row made climb =>
    have hfirst := config.one_le_toNat_coarseBound k
    have hword := toNat_le_maxWord (config.coarseBound k)
    have hrestart := config.restart_le hfirst
    have hone := config.one_le_restart (config.coarseBound k)
    intro t ht
    rcases List.mem_append.1 ht with ht | ht
    · exact hfailures k t ht
    · rcases List.mem_cons.1 ht with rfl | ht
      · exact hfirst
      · have := climb.low_le_of_mem (by omega) ht
        omega

/-! ## The length of a course -/

/-- The most trials that a search makes, if the largest bound is below the largest word. -/
def trialLimit (config : SearchConfig) : Nat :=
  coarseCount config + max config.confirmations 1 * config.maxBound.toNat

/-- The coarse failures within reach are no more than the coarse bounds there. -/
theorem le_coarseCount (hmax : config.maxBound.toNat < maxWord) {k : Nat}
    (hreach : ∀ t ∈ coarseFailures config k, t.1 ≤ config.maxBound) : k ≤ coarseCount config := by
  cases k with
  | zero => exact Nat.zero_le _
  | succ k =>
    rw [coarseFailures_succ] at hreach
    have hlast : config.coarseBound k ≤ config.maxBound :=
      hreach (config.coarseBound k, false) (by simp)
    exact (coarseBound_le_iff hmax k).1 hlast

/-- A climb within reach has no more trials than the bounds below the largest one need, and one less
if it has an answer ahead. -/
theorem ClimbAfter.length_le {k bound row : Nat} {made : List (UInt64 × Bool)}
    (climb : ClimbAfter config k made bound row) (hmax : config.maxBound.toNat < maxWord)
    (hfirst : config.coarseBound k ≤ config.maxBound)
    (hreach : ∀ t ∈ made, t.1 ≤ config.maxBound) :
    made.length ≤ max config.confirmations 1 * config.maxBound.toNat ∧
      (bound ≤ config.maxBound.toNat →
        made.length + 1 ≤ max config.confirmations 1 * config.maxBound.toNat) := by
  have hlimit : 0 < max config.confirmations 1 := by omega
  have hone := config.one_le_restart (config.coarseBound k)
  have hrestart := config.restart_le (config.one_le_toNat_coarseBound k)
  rw [UInt64.le_iff_toNat_le] at hfirst
  have hlow := climb.low_le
  have hrow := climb.row_lt hlimit
  have hlength := Climb.length_le climb hlimit
  have hbelow : ∀ n, n ≤ config.maxBound.toNat →
      max config.confirmations 1 * n ≤
        max config.confirmations 1 * config.maxBound.toNat := fun n hn => Nat.mul_le_mul_left _ hn
  have hwithin : bound ≤ config.maxBound.toNat →
      made.length + 1 ≤ max config.confirmations 1 * config.maxBound.toNat := by
    intro hbound
    have hone := hbelow (bound - config.restart (config.coarseBound k) + 1) (by omega)
    rw [Nat.mul_succ] at hone
    omega
  refine ⟨?_, hwithin⟩
  rcases climb.bound_le_or hmax (by omega) hreach with hbound | ⟨hbound, hrow⟩
  · have := hwithin hbound
    omega
  · have := hbelow (bound - config.restart (config.coarseBound k)) (by omega)
    omega

/-- A course within reach has at most as many trials as the limit, and one less if its next bound is
within reach. -/
theorem Course.length_le {tried : List (UInt64 × Bool)} {state : SearchState}
    (course : Course config tried state) (hmax : config.maxBound.toNat < maxWord)
    (hreach : ∀ t ∈ tried, t.1 ≤ config.maxBound) :
    tried.length ≤ trialLimit config ∧
      (state.bound ≤ config.maxBound → tried.length + 1 ≤ trialLimit config) := by
  rw [trialLimit]
  cases course with
  | coarse k =>
    have hcount := le_coarseCount hmax hreach
    rw [length_coarseFailures]
    refine ⟨by omega, ?_⟩
    intro hbound
    have := (coarseBound_le_iff hmax k).1 hbound
    omega
  | @confirm k bound row made climb =>
    rw [List.forall_mem_append, List.forall_mem_cons] at hreach
    obtain ⟨-, hfirst, hclimb⟩ := hreach
    have hcount := (coarseBound_le_iff hmax k).1 hfirst
    obtain ⟨hlength, hwithin⟩ := climb.length_le hmax hfirst hclimb
    rw [List.length_append, length_coarseFailures, List.length_cons]
    refine ⟨by omega, ?_⟩
    intro hbound
    have hword : bound ≤ config.maxBound.toNat := by
      change clampWord bound ≤ config.maxBound at hbound
      rw [UInt64.le_iff_toNat_le, toNat_clampWord] at hbound
      omega
    have := hwithin hword
    omega

/-! ## The record of a search -/

/-- The trial that also keeps a record of the bounds tried and their outcomes. -/
def recording (trial : UInt64 → σ → Bool × σ) (bound : UInt64)
    (s : σ × List (UInt64 × Bool)) : Bool × (σ × List (UInt64 × Bool)) :=
  let (succeeded, next) := trial bound s.1
  (succeeded, next, s.2 ++ [(bound, succeeded)])

/-- The trials that a search makes, in their order: the bounds tried with their outcomes. -/
def history (config : SearchConfig) (unit : String) (trial : UInt64 → σ → Bool × σ) (s : σ)
    (progress : Progress) : List (UInt64 × Bool) :=
  (findMinBound config unit (recording trial) (s, []) progress).2.2.1.2

/-- The run without the record. -/
def withoutRecord (run : SearchRun (σ × List (UInt64 × Bool))) : SearchRun σ :=
  { state := run.state, trialState := run.trialState.1, progress := run.progress }

/-- The record changes nothing else. -/
theorem loop_recording (config : SearchConfig) (unit : String) (trial : UInt64 → σ → Bool × σ)
    (rounds : Nat) (run : SearchRun (σ × List (UInt64 × Bool))) :
    loop config unit trial rounds (withoutRecord run) =
      ((loop config unit (recording trial) rounds run).1,
        withoutRecord (loop config unit (recording trial) rounds run).2) :=
  loop_map (fun _ _ => rfl) rounds run

/-- A search and its record are read off the end of the loop that keeps the record. -/
theorem search_of_loop {rounds : Nat} {s : σ} {progress : Progress} {verdict : SearchEnd}
    {last : SearchRun (σ × List (UInt64 × Bool))}
    (hloop : loop config unit (recording trial) rounds (opening config (s, []) progress) =
      (some verdict, last)) :
    history config unit trial s progress = last.trialState.2 ∧
      findMinBound config unit trial s progress =
        ((conclude config unit verdict).1, (conclude config unit verdict).2, last.trialState.1,
          last.progress) := by
  have hplain : loop config unit trial rounds (opening config s progress) = _ :=
    loop_recording config unit trial rounds (opening config (s, []) progress)
  rw [hloop] at hplain
  rw [history, findMinBound_of_loop hloop, findMinBound_of_loop hplain]
  exact ⟨rfl, rfl⟩

/-- The same of an end that is known before what the loop has recorded. -/
theorem search_of_end {rounds : Nat} {s : σ} {progress : Progress} {verdict : SearchEnd}
    (hend : (loop config unit (recording trial) rounds (opening config (s, []) progress)).1 =
      some verdict) :
    history config unit trial s progress =
        (loop config unit (recording trial) rounds (opening config (s, []) progress)).2.trialState.2 ∧
      (findMinBound config unit trial s progress).1 = (conclude config unit verdict).1 := by
  obtain ⟨hhistory, hsearch⟩ := search_of_loop (Prod.ext hend rfl)
  exact ⟨hhistory, congrArg Prod.fst hsearch⟩

/-- A row of trials is recorded trial by trial. -/
theorem Stretch.record_eq {run final : SearchRun (σ × List (UInt64 × Bool))}
    {tried : List (UInt64 × Bool)}
    (stretch : Stretch config unit (recording trial) run tried final) :
    final.trialState.2 = run.trialState.2 ++ tried := by
  induction stretch with
  | nil => rw [List.append_nil]
  | cons _ _ _ ih =>
    rw [ih, List.append_cons]
    rfl

/-! ## Endings -/

/-- What a search has tried once it has ended, and its verdict: either the course leads to a bound
out of reach, or one more success completes the row that a climb has begun. -/
inductive Ending (config : SearchConfig) : List (UInt64 × Bool) → SearchEnd → Prop
  | exhausted {tried : List (UInt64 × Bool)} {state : SearchState}
      (course : Course config tried state) (hreach : ∀ t ∈ tried, t.1 ≤ config.maxBound)
      (hexceeded : config.maxBound < state.bound) :
      Ending config tried (.exhausted tried.length)
  | found {k bound row : Nat} {made : List (UInt64 × Bool)}
      (climb : ClimbAfter config k made bound row) (hrow : row + 1 = max config.confirmations 1)
      (hreach : ∀ t ∈ coarseFailures config k ++ (config.coarseBound k, true) :: made,
        t.1 ≤ config.maxBound)
      (hbound : clampWord bound ≤ config.maxBound) :
      Ending config
        (coarseFailures config k ++ (config.coarseBound k, true) ::
          (made ++ [(clampWord bound, true)]))
        (.found
          { bound := clampWord bound
            trials := k + 1 + made.length + 1
            firstSuccess := some (config.coarseBound k) })

/-- A trial that gives the answer is a success that completes a row. -/
theorem Course.ending {tried : List (UInt64 × Bool)} {state : SearchState}
    (course : Course config tried state) (hreach : ∀ t ∈ tried, t.1 ≤ config.maxBound)
    (hbound : state.bound ≤ config.maxBound) {succeeded : Bool} {bound : UInt64}
    (hanswer : (state.advance config succeeded).1 = some bound) :
    Ending config (tried ++ [(state.bound, succeeded)])
      (.found
        { bound
          trials := tried.length + 1
          firstSuccess := (state.advance config succeeded).2.firstSuccess }) := by
  cases course with
  | coarse k =>
    cases succeeded with
    | false =>
      rw [advance_coarse_failure] at hanswer
      cases hanswer
    | true =>
      rw [advance_coarse_success] at hanswer
      cases hanswer
  | @confirm k current row made climb =>
    cases succeeded with
    | false =>
      rw [advance_confirm_failure] at hanswer
      cases hanswer
    | true =>
      rw [advance_confirm_success] at hanswer ⊢
      have hrow := climb.row_lt (by omega)
      have hlong : max config.confirmations 1 ≤ row + 1 := by
        by_contra hshort
        rw [if_neg hshort] at hanswer
        cases hanswer
      rw [if_pos hlong] at hanswer
      cases hanswer
      have hending := Ending.found climb (by omega) hreach hbound
      have hlength : (coarseFailures config k ++ (config.coarseBound k, true) :: made).length =
          k + 1 + made.length := by
        rw [List.length_append, length_coarseFailures, List.length_cons]
        omega
      rw [hlength, List.append_assoc]
      exact hending

/-- A search has made as many trials as its verdict says. -/
theorem Ending.trials_eq {tried : List (UInt64 × Bool)} {verdict : SearchEnd}
    (ending : Ending config tried verdict) : verdict.trials = tried.length := by
  cases ending with
  | exhausted _ _ _ => rfl
  | @found k bound row made _ _ _ _ =>
    simp only [SearchEnd.trials, List.length_append, length_coarseFailures, List.length_cons,
      List.length_nil]
    omega

/-- Every bound that a search tries is at least one and within reach. -/
theorem Ending.bounds {tried : List (UInt64 × Bool)} {verdict : SearchEnd}
    (ending : Ending config tried verdict) :
    ∀ t ∈ tried, 1 ≤ t.1.toNat ∧ t.1 ≤ config.maxBound := by
  cases ending with
  | exhausted course hreach _ => exact fun t ht => ⟨course.one_le t ht, hreach t ht⟩
  | @found k bound row made climb _ hreach hbound =>
    have hcourse := Course.one_le (.confirm climb)
    have hone := config.one_le_restart (config.coarseBound k)
    have hlow := climb.low_le
    rw [← List.cons_append, ← List.append_assoc, List.forall_mem_append, List.forall_mem_singleton,
      toNat_clampWord]
    refine ⟨fun t ht => ⟨hcourse t ht, hreach t ht⟩, ?_, hbound⟩
    rw [maxWord]
    omega

/-- A search that has ended has made at most as many trials as the limit. -/
theorem Ending.length_le {tried : List (UInt64 × Bool)} {verdict : SearchEnd}
    (ending : Ending config tried verdict) (hmax : config.maxBound.toNat < maxWord) :
    tried.length ≤ trialLimit config := by
  cases ending with
  | exhausted course hreach _ => exact (course.length_le hmax hreach).1
  | @found k bound row made climb _ hreach hbound =>
    have hlength := ((Course.confirm climb).length_le hmax hreach).2 hbound
    rw [← List.cons_append, ← List.append_assoc, List.length_append, List.length_singleton]
    exact hlength

/-- A search whose first coarse bound is out of reach makes no trial. -/
theorem Ending.length_eq_zero {tried : List (UInt64 × Bool)} {verdict : SearchEnd}
    (ending : Ending config tried verdict) (hexceeded : config.maxBound < config.coarseBound 0) :
    tried.length = 0 := by
  -- Neither a coarse failure nor a first success is within reach.
  have hout : ∀ k, ¬ config.coarseBound k ≤ config.maxBound := by
    intro k hreach
    exact UInt64.not_le.2 hexceeded
      (UInt64.le_trans (coarseBound_mono config (Nat.zero_le k)) hreach)
  cases ending with
  | exhausted course hreach _ =>
    cases course with
    | coarse k =>
      cases k with
      | zero => rfl
      | succ k =>
        rw [coarseFailures_succ, List.forall_mem_append, List.forall_mem_singleton] at hreach
        exact absurd hreach.2 (hout k)
    | @confirm k _ _ _ _ =>
      rw [List.forall_mem_append, List.forall_mem_cons] at hreach
      exact absurd hreach.2.1 (hout k)
  | @found k _ _ _ _ _ hreach _ =>
    rw [List.forall_mem_append, List.forall_mem_cons] at hreach
    exact absurd hreach.2.1 (hout k)

/-- A loop makes a row of trials until the rounds are used up, the bound is out of reach, or the
next trial gives the answer. -/
theorem exists_stretch (config : SearchConfig) (unit : String) (trial : UInt64 → σ → Bool × σ)
    (rounds : Nat) (run : SearchRun σ) :
    ∃ tried final, Stretch config unit trial run tried final ∧
      (tried.length = rounds ∨ config.maxBound < final.state.bound ∨
        final.state.bound ≤ config.maxBound ∧
          ∃ bound, (attempt config unit trial final).1 = some bound) := by
  induction rounds generalizing run with
  | zero => exact ⟨[], run, .nil run, Or.inl rfl⟩
  | succ rounds ih =>
    by_cases hexceeded : config.maxBound < run.state.bound
    · exact ⟨[], run, .nil run, Or.inr (Or.inl hexceeded)⟩
    · have inReach := UInt64.not_lt.1 hexceeded
      cases hanswer : (attempt config unit trial run).1 with
      | some bound => exact ⟨[], run, .nil run, Or.inr (Or.inr ⟨inReach, bound, hanswer⟩)⟩
      | none =>
        obtain ⟨tried, final, hstretch, hend⟩ := ih (attempt config unit trial run).2
        refine ⟨_, final, .cons inReach hanswer hstretch, ?_⟩
        rw [List.length_cons]
        rcases hend with hrounds | hend
        · exact Or.inl (congrArg (· + 1) hrounds)
        · exact Or.inr hend

/-- A search whose first row of trials is followed by the end of the loop has tried what that end
records, and returns its verdict. -/
theorem search_of_stretch {s : σ} {progress : Progress} {tried : List (UInt64 × Bool)}
    {verdict : SearchEnd} {final last : SearchRun (σ × List (UInt64 × Bool))}
    (stretch : Stretch config unit (recording trial) (opening config (s, []) progress) tried final)
    (hlast : ∀ spare, loop config unit (recording trial) (spare + 1) final = (some verdict, last)) :
    history config unit trial s progress = last.trialState.2 ∧
      (findMinBound config unit trial s progress).1 = (conclude config unit verdict).1 ∧
      ∀ rounds, tried.length < rounds →
        (loop config unit trial rounds (opening config s progress)).1 = some verdict := by
  have hloop : ∀ rounds, tried.length < rounds →
      loop config unit (recording trial) rounds (opening config (s, []) progress) =
        (some verdict, last) := by
    intro rounds hlt
    obtain ⟨spare, rfl⟩ : ∃ spare, rounds = tried.length + (spare + 1) :=
      ⟨rounds - tried.length - 1, by omega⟩
    rw [loop_of_stretch stretch, hlast]
  obtain ⟨hhistory, hsearch⟩ := search_of_loop (hloop (tried.length + 1) (Nat.lt_succ_self _))
  refine ⟨hhistory, congrArg Prod.fst hsearch, ?_⟩
  intro rounds hlt
  have hplain := loop_recording config unit trial rounds (opening config (s, []) progress)
  rw [hloop rounds hlt] at hplain
  exact congrArg Prod.fst hplain

/-- Below the largest word a search ends, with more rounds than it makes trials. -/
theorem exists_ending (config : SearchConfig) (unit : String) (trial : UInt64 → σ → Bool × σ)
    (s : σ) (progress : Progress) (hmax : config.maxBound.toNat < maxWord) :
    ∃ verdict, Ending config (history config unit trial s progress) verdict ∧
      (findMinBound config unit trial s progress).1 = (conclude config unit verdict).1 ∧
      ∀ rounds, (history config unit trial s progress).length < rounds →
        (loop config unit trial rounds (opening config s progress)).1 = some verdict := by
  obtain ⟨tried, final, hstretch, hend⟩ := exists_stretch config unit (recording trial)
    (trialLimit config + 1) (opening config (s, []) progress)
  have hstart : Course config [] (.start config) := .start config
  have hcourse : Course config tried final.state := hstretch.course hstart
  have hreach := hstretch.reach
  have hrecord : final.trialState.2 = tried := hstretch.record_eq
  have htrials : final.state.trials = tried.length := hstretch.trials_eq.trans (Nat.zero_add _)
  have hlength := (hcourse.length_le hmax hreach).1
  rcases hend with hall | hexceeded | ⟨hbound, answer, hanswer⟩
  · omega
  · obtain ⟨hhistory, hresult, hloop⟩ := search_of_stretch hstretch
      fun spare => loop_of_exceeded hexceeded spare
    rw [htrials] at hresult hloop
    rw [hhistory, hrecord]
    exact ⟨_, .exhausted hcourse hreach hexceeded, hresult, hloop⟩
  · obtain ⟨hhistory, hresult, hloop⟩ := search_of_stretch hstretch
      fun spare => loop_of_answer hbound hanswer spare
    change _ = final.trialState.2 ++ _ at hhistory
    rw [htrials] at hresult hloop
    rw [hhistory, hrecord]
    refine ⟨_, hcourse.ending hreach hbound hanswer, hresult, ?_⟩
    intro rounds hlt
    apply hloop
    rw [List.length_append, List.length_singleton] at hlt
    omega

/-- Below the largest word every search ends. -/
theorem ends_of_lt (hmax : config.maxBound.toNat < maxWord) (unit : String)
    (trial : UInt64 → σ → Bool × σ) (s : σ) (progress : Progress) :
    Ends config unit trial s progress := by
  obtain ⟨verdict, -, -, hloop⟩ := exists_ending config unit trial s progress hmax
  refine ⟨(history config unit trial s progress).length + 1, ?_⟩
  rw [hloop _ (Nat.lt_succ_self _)]
  exact Option.some_ne_none verdict

end Search

end RunMeter
