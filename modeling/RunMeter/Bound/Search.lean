import RunMeter.Bound.State
import RunMeter.Failure
import RunMeter.Log
import RunMeter.Progress

/-!
# Searching for the least bound

`Search.loop` drives a `SearchState` with trials until there is an answer or the bound passes the
largest one. A trial is any function of the bound with a state of its own, so it may well be flaky.
The loop is bounded by a count of rounds, and a search goes round after round until there is an end
(`Search.untilEnd`). Every search ends whose largest bound is below the largest word. At the largest
word itself the bound can no longer grow past it, and a search may go on for ever: then it does not
return, and nothing can be said of its result.
-/

set_option autoImplicit false

namespace RunMeter

/-- The answer of a search. -/
structure SearchOutcome where
  bound : UInt64
  trials : Nat
  firstSuccess : Option UInt64
deriving DecidableEq, Repr

/-- How a search ends. -/
inductive SearchEnd
  | found (outcome : SearchOutcome)
  | exhausted (trials : Nat)
deriving DecidableEq, Repr

/-- A search in progress. `σ` is the state of the trials. -/
structure SearchRun (σ : Type) where
  state : SearchState
  trialState : σ
  progress : Progress

namespace Search

variable {σ : Type}

/-- The glyph that marks a trial before it is made: a coarse one, one at a bound that has just
succeeded, or any other. -/
def glyph (state : SearchState) : String :=
  match state.phase with
  | .coarse => ">"
  | .confirm => if state.successes = 0 then "+" else "?"

/-- The line that announces a trial. -/
def announcement (state : SearchState) (unit : String) : String :=
  let verb := if glyph state = "?" then "Verifying " else "Trying "
  verb ++ toString state.bound.toNat ++ " " ++ unit

/-- Makes trials for at most the given number of rounds. Without an end, the rounds were too few. -/
def loop (config : SearchConfig) (unit : String) (trial : UInt64 → σ → Bool × σ) :
    (rounds : Nat) → SearchRun σ → Option SearchEnd × SearchRun σ
  | 0, run => (none, run)
  | rounds + 1, run =>
    if config.maxBound < run.state.bound then
      (some (.exhausted run.state.trials), { run with progress := run.progress.finish })
    else
      let progress := run.progress.step (glyph run.state) (announcement run.state unit)
      let (succeeded, trialState) := trial run.state.bound run.trialState
      match run.state.advance config succeeded with
      | (some bound, state) =>
        (some (.found { bound, trials := state.trials, firstSuccess := state.firstSuccess }),
          { state, trialState, progress := progress.finish })
      | (none, state) => loop config unit trial rounds { state, trialState, progress }

/-- One round: the end that it comes to, or else the run to go on with. -/
def round (config : SearchConfig) (unit : String) (trial : UInt64 → σ → Bool × σ)
    (run : SearchRun σ) : SearchRun σ ⊕ (SearchEnd × SearchRun σ) :=
  match loop config unit trial 1 run with
  | (some verdict, last) => .inr (verdict, last)
  | (none, next) => .inl next

/-- Goes round after round until there is an end. A search without one does not return. -/
def untilEnd (config : SearchConfig) (unit : String) (trial : UInt64 → σ → Bool × σ)
    (run : SearchRun σ) : SearchEnd × SearchRun σ :=
  have : Nonempty (SearchEnd × SearchRun σ) := ⟨(.exhausted run.state.trials, run)⟩
  repeatM (m := Id) (round config unit trial) run

/-- The failure that no bound was found. -/
def exhaustion (config : SearchConfig) (unit : String) (trials : Nat) : Failure :=
  { kind := .searchExhausted
    detail := "no stable bound at or below " ++ toString config.maxBound.toNat ++ " " ++ unit ++
      " after " ++ toString trials ++ " trials" }

/-- The note that a bound was found. -/
def announceOutcome (unit : String) (outcome : SearchOutcome) : LogLine :=
  .info ("minimum bound " ++ toString outcome.bound.toNat ++ " " ++ unit ++ " after " ++
    toString outcome.trials ++ " trials")

/-- The result of a search and its log. -/
def conclude (config : SearchConfig) (unit : String) :
    SearchEnd → Except Failure SearchOutcome × Log
  | .found outcome => (.ok outcome, [announceOutcome unit outcome])
  | .exhausted trials => (.error (exhaustion config unit trials), [])

/-- Finds the least bound under which the trial succeeds as often in a row as required. -/
def findMinBound (config : SearchConfig) (unit : String) (trial : UInt64 → σ → Bool × σ)
    (trialState : σ) (progress : Progress) :
    Except Failure SearchOutcome × Log × σ × Progress :=
  let (verdict, run) :=
    untilEnd config unit trial { state := .start config, trialState, progress }
  let (result, log) := conclude config unit verdict
  (result, log, run.trialState, run.progress)

end Search

end RunMeter
