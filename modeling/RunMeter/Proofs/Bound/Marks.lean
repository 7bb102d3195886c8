import RunMeter.Proofs.Bound.Course
import RunMeter.Proofs.Progress.Groups

/-!
# What a bound search shows

A search marks every trial before it is made, by the state that it is in. What the state says follows
from the outcomes of the trials before (`TrialMark.after`): up to the first success all trials are
coarse, and behind it a mark tells whether the trial before has verified its bound
(`Search.Course.mark_eq`). So the display of a search that has ended shows the marks of its trials one
by one and ends the line of glyphs once, if it was begun (`Search.display_of_loop`).

A mark and the outcomes before it tell the outcome in between (`TrialMark.after_concat_inj`). Hence
searches that look the same on a terminal have had the same outcomes, but for the last trial, which
nothing is shown behind (`Search.marks_shown`).
-/

set_option autoImplicit false

namespace RunMeter

/-! ## Marks -/

/-- The mark of a trial. -/
inductive TrialMark
  | coarse
  | climb
  | verify
deriving DecidableEq, Repr

namespace TrialMark

/-- The glyph of a mark on a terminal. -/
def glyph : TrialMark → Char
  | .coarse => '>'
  | .climb => '+'
  | .verify => '?'

/-- The word that a line begins with. -/
def verb : TrialMark → String
  | .coarse => "Trying"
  | .climb => "Trying"
  | .verify => "Verifying"

/-- The line that announces a trial at a bound. -/
def line (unit : String) (mark : TrialMark) (bound : UInt64) : String :=
  mark.verb ++ " " ++ toString bound.toNat ++ " " ++ unit

/-- The mark of a trial, by the outcomes of the trials before it. A trial is coarse if none of them has
succeeded. Otherwise it belongs to the confirm phase, and it verifies a bound if the trial right before
it does so as well and has succeeded. -/
def after (before : List Bool) : TrialMark :=
  if true ∉ before then .coarse
  else if before.getLast? = some true ∧ true ∈ before.dropLast then .verify
  else .climb

theorem glyph_injective : Function.Injective glyph := by
  intro a b
  cases a <;> cases b <;> decide

/-- The mark behind one more outcome. -/
theorem after_concat (before : List Bool) (succeeded : Bool) :
    after (before ++ [succeeded]) =
      if true ∈ before then (if succeeded then .verify else .climb)
      else (if succeeded then .climb else .coarse) := by
  cases succeeded <;> by_cases hbefore : true ∈ before <;> simp [after, hbefore]

/-- A mark tells the outcome before it. -/
theorem after_concat_inj {before : List Bool} {a b : Bool}
    (h : after (before ++ [a]) = after (before ++ [b])) : a = b := by
  rw [after_concat, after_concat] at h
  revert h
  cases a <;> cases b <;> by_cases hbefore : true ∈ before <;> simp [hbefore]

end TrialMark

/-- The marks of a row of trials, each with the bound tried, behind trials with known outcomes. -/
def marksFrom (before : List Bool) : List (UInt64 × Bool) → List (TrialMark × UInt64)
  | [] => []
  | (bound, succeeded) :: rest => (.after before, bound) :: marksFrom (before ++ [succeeded]) rest

theorem marksFrom_append (before : List Bool) (made more : List (UInt64 × Bool)) :
    marksFrom before (made ++ more) =
      marksFrom before made ++ marksFrom (before ++ made.map Prod.snd) more := by
  induction made generalizing before with
  | nil => rw [List.map_nil, List.append_nil, List.nil_append, marksFrom, List.nil_append]
  | cons t made ih =>
    rw [List.cons_append, marksFrom, marksFrom, ih, List.map_cons, List.append_assoc]
    rfl

/-- There is a mark for every trial. -/
@[simp]
theorem length_marksFrom (before : List Bool) (made : List (UInt64 × Bool)) :
    (marksFrom before made).length = made.length := by
  induction made generalizing before with
  | nil => rfl
  | cons t made ih => rw [marksFrom, List.length_cons, List.length_cons, ih]

/-- Trials with the same marks have had the same outcomes, but for the last one. -/
theorem outcomes_of_marksFrom {before : List Bool} {made other : List (UInt64 × Bool)}
    (h : (marksFrom before made).map Prod.fst = (marksFrom before other).map Prod.fst) :
    (made.map Prod.snd).dropLast = (other.map Prod.snd).dropLast := by
  have hlength : made.length = other.length := by
    simpa using congrArg List.length h
  induction made generalizing before other with
  | nil =>
    rw [List.length_eq_zero_iff.1 hlength.symm]
  | cons t made ih =>
    obtain ⟨u, other, rfl⟩ := List.exists_cons_of_length_eq_add_one hlength.symm
    have hrest := (List.cons.inj h).2
    have hlengths : made.length = other.length := Nat.succ.inj hlength
    cases made with
    | nil =>
      rw [List.length_eq_zero_iff.1 hlengths.symm]
      rfl
    | cons t' made =>
      obtain ⟨u', other, rfl⟩ := List.exists_cons_of_length_eq_add_one hlengths.symm
      have houtcome : t.2 = u.2 := TrialMark.after_concat_inj (List.cons.inj hrest).1
      change (marksFrom (before ++ [t.2]) _).map Prod.fst = _ at hrest
      rw [houtcome] at hrest
      have htail := ih hrest hlengths
      rw [List.map_cons, List.map_cons, List.dropLast_cons_cons, List.map_cons, List.map_cons,
        List.dropLast_cons_cons, houtcome]
      exact congrArg (u.2 :: ·) htail

/-! ## Displays -/

/-- What a display shows of marked trials: on a terminal a line of glyphs, if there is one, and
elsewhere a line each. -/
def shown (isTerminal : Bool) (unit : String) (marks : List (TrialMark × UInt64)) : String :=
  if isTerminal then
    String.ofList (marks.map fun m => m.1.glyph) ++ if marks.isEmpty then "" else "\n"
  else String.join (marks.map fun m => m.1.line unit m.2 ++ "\n")

/-- Shows a mark. -/
def showMark (unit : String) (progress : Progress) (m : TrialMark × UInt64) : Progress :=
  progress.step m.1.glyph.toString (m.1.line unit m.2)

/-- The call that shows a mark. -/
def markCall (unit : String) (m : TrialMark × UInt64) : ProgressCall :=
  .step m.1.glyph.toString (m.1.line unit m.2)

theorem foldl_showMark (unit : String) (marks : List (TrialMark × UInt64)) (progress : Progress) :
    marks.foldl (showMark unit) progress = progress.after (marks.map (markCall unit)) := by
  rw [Progress.after, List.foldl_map]
  rfl

/-- Marks that are shown are a group of steps. -/
theorem groupText_marks (unit : String) (marks : List (TrialMark × UInt64)) :
    ProgressCall.groupText (marks.map (markCall unit)) = shown true unit marks := by
  have hglyphs : String.join ((marks.map (markCall unit)).map ProgressCall.glyph) =
      String.ofList (marks.map fun m => m.1.glyph) := by
    induction marks with
    | nil => rfl
    | cons m marks ih =>
      rw [List.map_cons, List.map_cons, String.join_cons, ih, List.map_cons, String.ofList_cons]
      rfl
  rw [ProgressCall.groupText, hglyphs]
  simp [shown]

/-- A new display that marks trials and is finished has shown the marks, and closing it adds nothing. -/
theorem finish_foldl_showMark (isTerminal : Bool) (unit : String)
    (marks : List (TrialMark × UInt64)) :
    let progress := (marks.foldl (showMark unit) { isTerminal }).finish
    progress.written = shown isTerminal unit marks ∧ progress.closed = progress.written := by
  intro progress
  refine ⟨?_, congrArg Progress.written (Progress.finish_finish _)⟩
  have hcalls : progress = _ := congrArg Progress.finish (foldl_showMark unit marks { isTerminal })
  rw [hcalls]
  cases isTerminal with
  | true =>
    have hsteps : .finish ∉ marks.map (markCall unit) := by simp [markCall]
    rw [Progress.finish_after_group hsteps, groupText_marks, String.empty_append]
  | false =>
    rw [Progress.after_lines, List.map_map, String.empty_append]
    rfl

/-- The marks can be read off what is shown on a terminal. -/
theorem marks_of_shown {unit other : String} {marks more : List (TrialMark × UInt64)}
    (h : shown true unit marks = shown true other more) :
    marks.map Prod.fst = more.map Prod.fst := by
  have hglyphs : ∀ marks : List (TrialMark × UInt64),
      marks.map (fun m => m.1.glyph) = (marks.map Prod.fst).map TrialMark.glyph := by
    intro marks
    rw [List.map_map]
    rfl
  have htext := congrArg String.toList h
  simp only [shown, if_true, String.toList_append, String.toList_ofList, hglyphs] at htext
  cases marks with
  | nil =>
    cases more with
    | nil => rfl
    | cons n more => simp at htext
  | cons m marks =>
    cases more with
    | nil => simp at htext
    | cons n more =>
      exact List.map_injective_iff.2 TrialMark.glyph_injective (List.append_cancel_right htext)

namespace Search

open SearchState

variable {σ : Type} {config : SearchConfig} {unit : String} {trial : UInt64 → σ → Bool × σ}

/-! ## The marks of a search -/

theorem map_snd_coarseFailures (config : SearchConfig) (k : Nat) :
    (coarseFailures config k).map Prod.snd = List.replicate k false := by
  rw [coarseFailures, List.map_map, Function.comp_def, List.map_const', List.length_range]

/-- The state of a search says what the outcomes of its trials say. -/
theorem Course.mark_eq {tried : List (UInt64 × Bool)} {state : SearchState}
    (course : Course config tried state) :
    TrialMark.after (tried.map Prod.snd) =
      match state.phase with
      | .coarse => .coarse
      | .confirm => if state.successes = 0 then .climb else .verify := by
  cases course with
  | coarse k =>
    rw [map_snd_coarseFailures]
    exact if_pos (by simp)
  | @confirm k bound row made climb =>
    have hcoarse : true ∉ List.replicate k false := by simp
    rw [List.map_append, map_snd_coarseFailures, List.map_cons]
    cases climb with
    | start =>
      rw [List.map_nil, TrialMark.after_concat, if_neg hcoarse]
      rfl
    | failure climb =>
      rw [List.map_append, List.map_singleton, ← List.cons_append, ← List.append_assoc,
        TrialMark.after_concat, if_pos (by simp)]
      rfl
    | success climb hfew =>
      rw [List.map_append, List.map_singleton, ← List.cons_append, ← List.append_assoc,
        TrialMark.after_concat, if_pos (by simp)]
      rfl

/-- The next trial is shown with the mark that the outcomes say. -/
theorem Course.step_eq {tried : List (UInt64 × Bool)} {state : SearchState}
    (course : Course config tried state) (unit : String) (progress : Progress) :
    progress.step (glyph state) (announcement state unit) =
      showMark unit progress (.after (tried.map Prod.snd), state.bound) := by
  unfold showMark announcement glyph
  rw [course.mark_eq]
  cases state.phase with
  | coarse => rfl
  | confirm =>
    dsimp only
    by_cases hfirst : state.successes = 0
    · rw [if_pos hfirst, if_pos hfirst]
      rfl
    · rw [if_neg hfirst, if_neg hfirst]
      rfl

/-- A row of trials is shown trial by trial. -/
theorem Stretch.progress_eq {run final : SearchRun σ} {before tried : List (UInt64 × Bool)}
    (stretch : Stretch config unit trial run tried final) (course : Course config before run.state) :
    final.progress =
      (marksFrom (before.map Prod.snd) tried).foldl (showMark unit) run.progress := by
  induction stretch generalizing before with
  | nil => rfl
  | @cons run final tried inReach noAnswer rest ih =>
    have hnext := ih (course.advance noAnswer)
    rw [List.map_append] at hnext
    rw [hnext, marksFrom, List.foldl_cons, ← course.step_eq]
    rfl

/-- Rounds no more than the trials of a row are too few for a loop to end. -/
theorem Stretch.loop_fst_eq_none {run final : SearchRun σ} {tried : List (UInt64 × Bool)}
    (stretch : Stretch config unit trial run tried final) {rounds : Nat}
    (hfew : rounds ≤ tried.length) : (loop config unit trial rounds run).1 = none := by
  induction stretch generalizing rounds with
  | nil =>
    rw [Nat.le_zero.1 hfew]
    rfl
  | @cons run final tried inReach noAnswer _ ih =>
    cases rounds with
    | zero => rfl
    | succ rounds =>
      have hrest := ih (Nat.le_of_succ_le_succ hfew)
      rw [loop_succ, if_neg (UInt64.not_lt.2 inReach)]
      revert noAnswer hrest
      rcases attempt config unit trial run with ⟨_ | bound, next⟩
      · exact fun _ hrest => hrest
      · nofun

/-- The trials that a loop makes in a number of rounds, the bounds tried with their outcomes. -/
def trialsWithin (config : SearchConfig) (unit : String) (trial : UInt64 → σ → Bool × σ)
    (rounds : Nat) (s : σ) (progress : Progress) : List (UInt64 × Bool) :=
  (loop config unit (recording trial) rounds (opening config (s, []) progress)).2.trialState.2

/-- A loop that has ended has made the trials of its verdict, and finished the display of their marks. -/
theorem display_of_loop {rounds : Nat} {s : σ} {progress : Progress} {verdict : SearchEnd}
    (hend : (loop config unit trial rounds (opening config s progress)).1 = some verdict) :
    let made := trialsWithin config unit trial rounds s progress
    verdict.trials = made.length ∧
      (loop config unit trial rounds (opening config s progress)).2.progress =
        ((marksFrom [] made).foldl (showMark unit) progress).finish := by
  intro made
  have hplain : loop config unit trial rounds (opening config s progress) = _ :=
    loop_recording config unit trial rounds (opening config (s, []) progress)
  rw [hplain] at hend ⊢
  obtain ⟨tried, final, stretch, hcase⟩ :=
    exists_stretch config unit (recording trial) rounds (opening config (s, []) progress)
  have hstart : Course config [] (.start config) := .start config
  have hprogress := stretch.progress_eq hstart
  have hrecord : final.trialState.2 = tried := stretch.record_eq
  have htrials : final.state.trials = tried.length := stretch.trials_eq.trans (Nat.zero_add _)
  have hrounds : tried.length < rounds := by
    by_contra hmany
    cases hend.symm.trans (stretch.loop_fst_eq_none (Nat.le_of_not_lt hmany))
  obtain ⟨spare, hspare⟩ : ∃ spare, rounds = tried.length + (spare + 1) :=
    ⟨rounds - tried.length - 1, by omega⟩
  have hloop := loop_of_stretch stretch (spare + 1)
  rw [← hspare] at hloop
  have hmade : made = (loop config unit (recording trial) rounds
      (opening config (s, []) progress)).2.trialState.2 := rfl
  rcases hcase with hall | hexceeded | ⟨hbound, answer, hanswer⟩
  · omega
  · rw [loop_of_exceeded hexceeded] at hloop
    rw [hloop] at hend hmade ⊢
    change made = final.trialState.2 at hmade
    cases hend
    rw [hmade, hrecord]
    exact ⟨htrials, congrArg Progress.finish hprogress⟩
  · rw [loop_of_answer hbound hanswer] at hloop
    rw [hloop] at hend hmade ⊢
    change made = final.trialState.2 ++ [(final.state.bound, _)] at hmade
    cases hend
    rw [hmade, hrecord, marksFrom_append, List.foldl_append, List.length_append]
    refine ⟨congrArg (· + 1) htrials, congrArg Progress.finish ?_⟩
    have hlast : (attempt config unit (recording trial) final).2.progress = _ :=
      (stretch.course hstart).step_eq unit final.progress
    rw [hlast, hprogress]
    rfl

/-- A search that ends shows the marks of the trials that it has recorded. -/
theorem display_of_search {s : σ} {progress : Progress}
    (hends : Ends config unit (recording trial) (s, []) progress) :
    (findMinBound config unit trial s progress).2.2.2 =
      ((marksFrom [] (history config unit trial s progress)).foldl (showMark unit)
        progress).finish := by
  obtain ⟨rounds, verdict, last, hloop⟩ := hends.exists_rounds
  have hend := hloop rounds (Nat.le_refl _)
  obtain ⟨hhistory, hsearch⟩ := search_of_loop hend
  have hplain : loop config unit trial rounds (opening config s progress) = _ :=
    loop_recording config unit trial rounds (opening config (s, []) progress)
  rw [hend] at hplain
  have hdisplay := (display_of_loop (congrArg Prod.fst hplain)).2
  rw [hplain] at hdisplay
  have hmade : trialsWithin config unit trial rounds s progress = last.trialState.2 := by
    rw [trialsWithin, hend]
  rw [hhistory, hsearch, ← hmade]
  exact hdisplay

/-- A search that begins with a new display shows the marks of its trials. On a terminal it shows a
glyph for each trial and then ends the line, if there was a trial; elsewhere it shows a line for each.
Closing the display adds nothing. This holds of every search that ends, in whatever number of rounds,
and below the largest word every search does. Hence two searches that have ended, whatever their
settings and trials, show the same on a terminal only if they have made as many trials with the same
outcomes, but for the last one. -/
theorem marks_shown (config : SearchConfig) (unit : String) (trial : UInt64 → σ → Bool × σ) (s : σ) :
    (∀ (isTerminal : Bool) (rounds : Nat) (verdict : SearchEnd),
      let search := loop config unit trial rounds (opening config s { isTerminal })
      let made := trialsWithin config unit trial rounds s { isTerminal }
      search.1 = some verdict →
        verdict.trials = made.length ∧
          search.2.progress.written = shown isTerminal unit (marksFrom [] made) ∧
          search.2.progress.closed = search.2.progress.written) ∧
    (config.maxBound.toNat < maxWord → ∀ isTerminal : Bool,
      let progress := (findMinBound config unit trial s { isTerminal }).2.2.2
      let made := history config unit trial s { isTerminal }
      progress.written = shown isTerminal unit (marksFrom [] made) ∧
        progress.closed = progress.written) ∧
    ∀ (τ : Type) (otherConfig : SearchConfig) (otherUnit : String)
      (other : UInt64 → τ → Bool × τ) (t : τ) (rounds otherRounds : Nat)
      (verdict otherVerdict : SearchEnd),
      let terminal : Progress := { isTerminal := true }
      let search := loop config unit trial rounds (opening config s terminal)
      let otherSearch :=
        loop otherConfig otherUnit other otherRounds (opening otherConfig t terminal)
      let outcomes := (trialsWithin config unit trial rounds s terminal).map Prod.snd
      let otherOutcomes :=
        (trialsWithin otherConfig otherUnit other otherRounds t terminal).map Prod.snd
      search.1 = some verdict → otherSearch.1 = some otherVerdict →
      search.2.progress.written = otherSearch.2.progress.written →
        outcomes.length = otherOutcomes.length ∧ outcomes.dropLast = otherOutcomes.dropLast := by
  refine ⟨?_, ?_, ?_⟩
  · intro isTerminal rounds verdict search made hend
    obtain ⟨htrials, hdisplay⟩ := display_of_loop hend
    have hshown := finish_foldl_showMark isTerminal unit (marksFrom [] made)
    rw [← hdisplay] at hshown
    exact ⟨htrials, hshown⟩
  · intro hmax isTerminal progress made
    have hdisplay : progress = _ :=
      display_of_search (ends_of_lt hmax unit (recording trial) (s, []) { isTerminal })
    rw [hdisplay]
    exact finish_foldl_showMark isTerminal unit (marksFrom [] made)
  · intro τ otherConfig otherUnit other t rounds otherRounds verdict otherVerdict terminal search
      otherSearch outcomes otherOutcomes hend hotherEnd hsame
    have hshown := finish_foldl_showMark true unit
      (marksFrom [] (trialsWithin config unit trial rounds s terminal))
    have hother := finish_foldl_showMark true otherUnit
      (marksFrom [] (trialsWithin otherConfig otherUnit other otherRounds t terminal))
    rw [← (display_of_loop hend).2] at hshown
    rw [← (display_of_loop hotherEnd).2] at hother
    have hmarks := marks_of_shown (hshown.1.symm.trans (hsame.trans hother.1))
    refine ⟨?_, outcomes_of_marksFrom hmarks⟩
    simpa [outcomes, otherOutcomes] using congrArg List.length hmarks

/-- A row of successes is broken at three and not at five. The seventh trial gives the answer. -/
theorem marks_shown_of_broken_streak :
    let config : SearchConfig :=
      { initialBound := 2, coarseStep := 3, confirmations := 2, maxBound := 9 }
    let outcomes := [false, true, true, false, false, true, true]
    let trial := fun (_ : UInt64) (n : Nat) => (outcomes.getD n false, n + 1)
    let search := loop config "MB" trial 7 (opening config 0 { isTerminal := true })
    let lines := loop config "MB" trial 7 (opening config 0 { isTerminal := false })
    search.1 = some (.found { bound := 5, trials := 7, firstSuccess := some 5 }) ∧
      search.2.progress.written = ">>+?++?\n" ∧ search.2.progress.closed = ">>+?++?\n" ∧
      lines.2.progress.written = "Trying 2 MB\nTrying 5 MB\nTrying 3 MB\nVerifying 3 MB\n" ++
        "Trying 4 MB\nTrying 5 MB\nVerifying 5 MB\n" := by
  intro config outcomes trial search lines
  have hend : search.1 = some (.found { bound := 5, trials := 7, firstSuccess := some 5 }) := by
    decide +kernel
  have hlinesEnd : lines.1 = some (.found { bound := 5, trials := 7, firstSuccess := some 5 }) := by
    decide +kernel
  have hmarks := marks_shown config "MB" trial 0
  obtain ⟨-, hshown, hclosed⟩ := hmarks.1 true 7 _ hend
  obtain ⟨-, hlines, -⟩ := hmarks.1 false 7 _ hlinesEnd
  refine ⟨hend, ?_, ?_, ?_⟩
  · rw [hshown]
    decide +kernel
  · rw [hclosed, hshown]
    decide +kernel
  · rw [hlines]
    decide +kernel

end Search

end RunMeter
