import RunMeter.Bound.Search

/-!
# The rounds of a bound search

`Search.loop` is bounded by a count of rounds, and what it does in them is independent of that count.
`Search.attempt` is a single trial, and `Search.Stretch` is a row of trials without an answer, none of
them above the largest bound, together with the bounds tried and their outcomes. A loop passes over
a stretch (`loop_of_stretch`) and then ends with an answer (`loop_of_answer`) or because the bound has
become too large (`loop_of_exceeded`). Once it has ended, in whatever number of rounds, that is the
end of the search (`findMinBound_of_loop`).

What the trials keep in their state is not looked at by the loop. Hence a search over a state is one
over any image of it that the trials respect (`findMinBound_map`), and what every trial preserves
holds at the end (`findMinBound_preserves`). Both are said of searches that end (`Ends`).
-/

set_option autoImplicit false

namespace RunMeter.Search

variable {σ : Type} {config : SearchConfig} {unit : String} {trial : UInt64 → σ → Bool × σ}

/-- One trial at the current bound: the run after it, and the answer if there is one. -/
def attempt (config : SearchConfig) (unit : String) (trial : UInt64 → σ → Bool × σ)
    (run : SearchRun σ) : Option UInt64 × SearchRun σ :=
  let progress := run.progress.step (glyph run.state) (announcement run.state unit)
  let (succeeded, trialState) := trial run.state.bound run.trialState
  let (answer, state) := run.state.advance config succeeded
  (answer, { state, trialState, progress })

/-- A round that finds the bound within reach makes one trial, and goes on if it has no answer. -/
theorem loop_succ (rounds : Nat) (run : SearchRun σ) :
    loop config unit trial (rounds + 1) run =
      if config.maxBound < run.state.bound then
        (some (.exhausted run.state.trials), { run with progress := run.progress.finish })
      else
        match attempt config unit trial run with
        | (some bound, next) =>
          (some (.found
              { bound, trials := next.state.trials, firstSuccess := next.state.firstSuccess }),
            { next with progress := next.progress.finish })
        | (none, next) => loop config unit trial rounds next := by
  rw [loop]
  split
  · rfl
  · simp only [attempt]
    rcases run.state.advance config (trial run.state.bound run.trialState).1 with ⟨_ | bound, next⟩
    · rfl
    · rfl

@[simp]
theorem attempt_fst (run : SearchRun σ) :
    (attempt config unit trial run).1 =
      (run.state.advance config (trial run.state.bound run.trialState).1).1 := rfl

@[simp]
theorem attempt_state (run : SearchRun σ) :
    (attempt config unit trial run).2.state =
      (run.state.advance config (trial run.state.bound run.trialState).1).2 := rfl

@[simp]
theorem attempt_trialState (run : SearchRun σ) :
    (attempt config unit trial run).2.trialState = (trial run.state.bound run.trialState).2 := rfl

/-- Every trial is counted. -/
@[simp]
theorem advance_trials (state : SearchState) (succeeded : Bool) :
    (state.advance config succeeded).2.trials = state.trials + 1 := by
  unfold SearchState.advance
  cases state.phase <;> cases succeeded <;> rfl

/-- A row of trials from one run to another, with the bounds tried and their outcomes: every bound is
within reach and no trial gives an answer. -/
inductive Stretch (config : SearchConfig) (unit : String) (trial : UInt64 → σ → Bool × σ) :
    SearchRun σ → List (UInt64 × Bool) → SearchRun σ → Prop
  | nil (run : SearchRun σ) : Stretch config unit trial run [] run
  | cons {run final : SearchRun σ} {tried : List (UInt64 × Bool)}
      (inReach : run.state.bound ≤ config.maxBound)
      (noAnswer : (attempt config unit trial run).1 = none)
      (rest : Stretch config unit trial (attempt config unit trial run).2 tried final) :
      Stretch config unit trial run
        ((run.state.bound, (trial run.state.bound run.trialState).1) :: tried) final

/-- Two rows of trials, one after the other, are a row of trials. -/
theorem Stretch.append {run mid final : SearchRun σ} {tried more : List (UInt64 × Bool)}
    (first : Stretch config unit trial run tried mid)
    (second : Stretch config unit trial mid more final) :
    Stretch config unit trial run (tried ++ more) final := by
  induction first with
  | nil => exact second
  | cons inReach noAnswer _ ih => exact .cons inReach noAnswer (ih second)

/-- A row of trials is counted trial by trial. -/
theorem Stretch.trials_eq {run final : SearchRun σ} {tried : List (UInt64 × Bool)}
    (stretch : Stretch config unit trial run tried final) :
    final.state.trials = run.state.trials + tried.length := by
  induction stretch with
  | nil => rfl
  | cons _ _ _ ih =>
    rw [ih, attempt_state, advance_trials, List.length_cons]
    omega

/-- The trials have been made at the bounds of the row, in their order, and nothing else was tried. -/
theorem Stretch.trialState_eq {run final : SearchRun σ} {tried : List (UInt64 × Bool)}
    (stretch : Stretch config unit trial run tried final) :
    final.trialState = (tried.map Prod.fst).foldl (fun s bound => (trial bound s).2)
      run.trialState := by
  induction stretch with
  | nil => rfl
  | cons _ _ _ ih => rw [ih, attempt_trialState, List.map_cons, List.foldl_cons]

/-- A loop passes over a row of trials, one round for each. -/
theorem loop_of_stretch {run final : SearchRun σ} {tried : List (UInt64 × Bool)}
    (stretch : Stretch config unit trial run tried final) (rounds : Nat) :
    loop config unit trial (tried.length + rounds) run = loop config unit trial rounds final := by
  induction stretch with
  | nil => rw [List.length_nil, Nat.zero_add]
  | @cons run final tried inReach noAnswer _ ih =>
    have hlen : ((run.state.bound, (trial run.state.bound run.trialState).1) :: tried).length +
        rounds = (tried.length + rounds) + 1 := by
      rw [List.length_cons]
      omega
    rw [hlen, loop_succ, if_neg (UInt64.not_lt.2 inReach), ← ih]
    rcases hattempt : attempt config unit trial run with ⟨answer, next⟩
    rw [hattempt] at noAnswer
    cases noAnswer
    rfl

/-- A loop ends with the answer of a trial within reach. -/
theorem loop_of_answer {run : SearchRun σ} {bound : UInt64}
    (inReach : run.state.bound ≤ config.maxBound)
    (hanswer : (attempt config unit trial run).1 = some bound) (rounds : Nat) :
    loop config unit trial (rounds + 1) run =
      (some (.found
          { bound
            trials := run.state.trials + 1
            firstSuccess := (attempt config unit trial run).2.state.firstSuccess }),
        { (attempt config unit trial run).2 with
          progress := (attempt config unit trial run).2.progress.finish }) := by
  have htrials : (attempt config unit trial run).2.state.trials = run.state.trials + 1 := by
    rw [attempt_state, advance_trials]
  rw [loop_succ, if_neg (UInt64.not_lt.2 inReach), ← htrials]
  rcases hattempt : attempt config unit trial run with ⟨answer, next⟩
  rw [hattempt] at hanswer
  cases hanswer
  rfl

/-- A loop ends without a trial once the bound is too large. -/
theorem loop_of_exceeded {run : SearchRun σ} (hexceeded : config.maxBound < run.state.bound)
    (rounds : Nat) :
    loop config unit trial (rounds + 1) run =
      (some (.exhausted run.state.trials), { run with progress := run.progress.finish }) := by
  rw [loop_succ, if_pos hexceeded]

/-- The run that a search begins with. -/
def opening (config : SearchConfig) (trialState : σ) (progress : Progress) : SearchRun σ :=
  { state := .start config, trialState, progress }

/-- More rounds go on where the first ones have left off. -/
theorem loop_add (first second : Nat) (run : SearchRun σ) :
    loop config unit trial (first + second) run =
      match loop config unit trial first run with
      | (some verdict, last) => (some verdict, last)
      | (none, next) => loop config unit trial second next := by
  induction first generalizing run with
  | zero => rw [Nat.zero_add, loop]
  | succ first ih =>
    rw [Nat.succ_add, loop_succ, loop_succ]
    split
    · rfl
    · rcases attempt config unit trial run with ⟨_ | bound, next⟩
      · exact ih next
      · rfl

/-- A loop that has ended makes nothing of further rounds. -/
theorem loop_of_le {rounds more : Nat} {run last : SearchRun σ} {verdict : SearchEnd}
    (hloop : loop config unit trial rounds run = (some verdict, last)) (hle : rounds ≤ more) :
    loop config unit trial more run = (some verdict, last) := by
  rw [← Nat.add_sub_cancel' hle, loop_add, hloop]

/-- The end of the first round is the end, and without one it is that of the run it leads to. -/
theorem untilEnd_eq (run : SearchRun σ) :
    untilEnd config unit trial run =
      match loop config unit trial 1 run with
      | (some verdict, last) => (verdict, last)
      | (none, next) => untilEnd config unit trial next := by
  have : Nonempty (SearchEnd × SearchRun σ) := ⟨(.exhausted run.state.trials, run)⟩
  have hrepeat : untilEnd config unit trial run =
      repeatM.body (m := Id) (round config unit trial) (untilEnd config unit trial) run :=
    repeatM_eq_of_monadTail run
  rw [hrepeat, repeatM.body, round]
  rcases loop config unit trial 1 run with ⟨_ | verdict, next⟩
  · rfl
  · rfl

/-- Going round after round leads to the end of the loop. -/
theorem untilEnd_of_loop {rounds : Nat} {run last : SearchRun σ} {verdict : SearchEnd}
    (hloop : loop config unit trial rounds run = (some verdict, last)) :
    untilEnd config unit trial run = (verdict, last) := by
  induction rounds generalizing run with
  | zero => cases hloop
  | succ rounds ih =>
    rw [Nat.add_comm, loop_add] at hloop
    rw [untilEnd_eq]
    revert hloop
    rcases loop config unit trial 1 run with ⟨_ | found, next⟩
    · exact ih
    · intro hloop
      cases hloop
      rfl

/-- What a search returns is read off the end of its loop. -/
theorem findMinBound_of_loop {rounds : Nat} {s : σ} {progress : Progress} {verdict : SearchEnd}
    {last : SearchRun σ}
    (hloop : loop config unit trial rounds (opening config s progress) = (some verdict, last)) :
    findMinBound config unit trial s progress =
      ((conclude config unit verdict).1, (conclude config unit verdict).2, last.trialState,
        last.progress) := by
  have hend : untilEnd config unit trial { state := .start config, trialState := s, progress } =
      (verdict, last) := untilEnd_of_loop hloop
  rw [findMinBound, hend]

/-- The same of an end that is known before the state in which the loop leaves the trials. -/
theorem findMinBound_of_end {rounds : Nat} {s : σ} {progress : Progress} {verdict : SearchEnd}
    (hend : (loop config unit trial rounds (opening config s progress)).1 = some verdict) :
    findMinBound config unit trial s progress =
      ((conclude config unit verdict).1, (conclude config unit verdict).2,
        (loop config unit trial rounds (opening config s progress)).2.trialState,
        (loop config unit trial rounds (opening config s progress)).2.progress) :=
  findMinBound_of_loop (Prod.ext hend rfl)

/-- A search finds a bound by a row of trials and one more that gives the answer. -/
theorem findMinBound_of_answer {s : σ} {progress : Progress} {final : SearchRun σ}
    {tried : List (UInt64 × Bool)} {bound : UInt64}
    (stretch : Stretch config unit trial (opening config s progress) tried final)
    (inReach : final.state.bound ≤ config.maxBound)
    (hanswer : (attempt config unit trial final).1 = some bound) :
    (findMinBound config unit trial s progress).1 =
        .ok { bound
              trials := (tried.map Prod.fst ++ [final.state.bound]).length
              firstSuccess := (attempt config unit trial final).2.state.firstSuccess } ∧
      (findMinBound config unit trial s progress).2.2.1 =
        (tried.map Prod.fst ++ [final.state.bound]).foldl (fun s bound => (trial bound s).2) s := by
  have htrials : final.state.trials = tried.length := stretch.trials_eq.trans (Nat.zero_add _)
  have hloop := loop_of_stretch stretch 1
  rw [loop_of_answer inReach hanswer, htrials] at hloop
  rw [findMinBound_of_loop hloop]
  constructor
  · rw [List.length_append, List.length_map]
    rfl
  · rw [List.foldl_append, List.foldl_cons, List.foldl_nil]
    exact congrArg (fun s => (trial final.state.bound s).2) stretch.trialState_eq

/-- A search is exhausted by a row of trials after which the bound is too large. -/
theorem findMinBound_of_exceeded {s : σ} {progress : Progress} {final : SearchRun σ}
    {tried : List (UInt64 × Bool)}
    (stretch : Stretch config unit trial (opening config s progress) tried final)
    (hexceeded : config.maxBound < final.state.bound) :
    (findMinBound config unit trial s progress).1 =
        .error (exhaustion config unit (tried.map Prod.fst).length) ∧
      (findMinBound config unit trial s progress).2.2.1 =
        (tried.map Prod.fst).foldl (fun s bound => (trial bound s).2) s := by
  have htrials : final.state.trials = tried.length := stretch.trials_eq.trans (Nat.zero_add _)
  have hloop := loop_of_stretch stretch 1
  rw [loop_of_exceeded hexceeded, htrials] at hloop
  rw [findMinBound_of_loop hloop, List.length_map]
  exact ⟨rfl, stretch.trialState_eq⟩

/-! ## Trials with other states -/

/-- The run with its trial state mapped. -/
def mapState {τ : Type} (f : σ → τ) (run : SearchRun σ) : SearchRun τ :=
  { state := run.state, trialState := f run.trialState, progress := run.progress }

/-- Trials that do the same to a mapped state lead a loop the same way. -/
theorem loop_map {τ : Type} {other : UInt64 → τ → Bool × τ} {f : σ → τ}
    (hmap : ∀ bound s, other bound (f s) = ((trial bound s).1, f (trial bound s).2))
    (rounds : Nat) (run : SearchRun σ) :
    loop config unit other rounds (mapState f run) =
      ((loop config unit trial rounds run).1, mapState f (loop config unit trial rounds run).2) := by
  induction rounds generalizing run with
  | zero => rfl
  | succ rounds ih =>
    have hattempt : attempt config unit other (mapState f run) =
        ((attempt config unit trial run).1, mapState f (attempt config unit trial run).2) := by
      simp only [attempt, mapState, hmap]
    rw [loop_succ, loop_succ, hattempt]
    by_cases hexceeded : config.maxBound < run.state.bound
    · have hsame : config.maxBound < (mapState f run).state.bound := hexceeded
      rw [if_pos hexceeded, if_pos hsame]
      rfl
    · have hsame : ¬ config.maxBound < (mapState f run).state.bound := hexceeded
      rw [if_neg hexceeded, if_neg hsame]
      rcases attempt config unit trial run with ⟨_ | bound, next⟩
      · exact ih next
      · rfl

/-- What every trial preserves holds at the end of a loop. -/
theorem loop_preserves {P : σ → Prop} (hstep : ∀ bound s, P s → P (trial bound s).2) (rounds : Nat)
    (run : SearchRun σ) (hrun : P run.trialState) :
    P (loop config unit trial rounds run).2.trialState := by
  induction rounds generalizing run with
  | zero => exact hrun
  | succ rounds ih =>
    have hnext : P (attempt config unit trial run).2.trialState := hstep run.state.bound _ hrun
    rw [loop_succ]
    split
    · exact hrun
    · revert hnext
      rcases attempt config unit trial run with ⟨_ | bound, next⟩
      · exact ih next
      · exact id

/-! ## Searches that end -/

/-- The search comes to an end in some number of rounds. -/
def Ends (config : SearchConfig) (unit : String) (trial : UInt64 → σ → Bool × σ) (s : σ)
    (progress : Progress) : Prop :=
  ∃ rounds, (loop config unit trial rounds (opening config s progress)).1 ≠ none

/-- From some number of rounds on the loop of a search that ends has ended. -/
theorem Ends.exists_rounds {s : σ} {progress : Progress} (h : Ends config unit trial s progress) :
    ∃ rounds verdict last, ∀ more, rounds ≤ more →
      loop config unit trial more (opening config s progress) = (some verdict, last) := by
  obtain ⟨rounds, hend⟩ := h
  rcases hloop : loop config unit trial rounds (opening config s progress) with ⟨_ | verdict, last⟩
  · rw [hloop] at hend
    exact absurd rfl hend
  · exact ⟨rounds, verdict, last, fun more hle => loop_of_le hloop hle⟩

/-- A search over trials that do the same to a mapped state returns and shows the same. -/
theorem findMinBound_map {τ : Type} {other : UInt64 → τ → Bool × τ} {f : σ → τ}
    (hmap : ∀ bound s, other bound (f s) = ((trial bound s).1, f (trial bound s).2)) {s : σ}
    {progress : Progress} (hends : Ends config unit trial s progress) :
    let outcome := findMinBound config unit trial s progress
    findMinBound config unit other (f s) progress =
      (outcome.1, outcome.2.1, f outcome.2.2.1, outcome.2.2.2) := by
  obtain ⟨rounds, verdict, last, hloop⟩ := hends.exists_rounds
  have hplain := hloop rounds (Nat.le_refl _)
  have hmapped : loop config unit other rounds (opening config (f s) progress) = _ :=
    loop_map hmap rounds (opening config s progress)
  rw [hplain] at hmapped
  rw [findMinBound_of_loop hplain, findMinBound_of_loop hmapped]
  rfl

/-- What every trial preserves holds at the end of a search. -/
theorem findMinBound_preserves {P : σ → Prop} (hstep : ∀ bound s, P s → P (trial bound s).2)
    {s : σ} (hs : P s) {progress : Progress} (hends : Ends config unit trial s progress) :
    P (findMinBound config unit trial s progress).2.2.1 := by
  obtain ⟨rounds, verdict, last, hloop⟩ := hends.exists_rounds
  have hlast : P (loop config unit trial rounds (opening config s progress)).2.trialState :=
    loop_preserves hstep rounds _ hs
  rw [hloop rounds (Nat.le_refl _)] at hlast
  rw [findMinBound_of_loop (hloop rounds (Nat.le_refl _))]
  exact hlast

end RunMeter.Search
