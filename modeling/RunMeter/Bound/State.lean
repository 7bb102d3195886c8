import RunMeter.Saturating

/-!
# The state of a bound search

A search looks for the least bound under which a trial succeeds reliably. In its coarse phase it
raises the bound by a fixed step until a trial succeeds. It then goes back to just above the last
coarse failure and climbs one by one, and a bound is the answer once it has succeeded the required
number of times in a row. `SearchState.advance` is the whole rule: it takes the outcome of a trial at
the current bound and gives the next state, and the answer if there is one.
-/

set_option autoImplicit false

namespace RunMeter

/-- How a search proceeds. A bound, step or count of zero is taken as one. -/
structure SearchConfig where
  initialBound : UInt64 := 10
  coarseStep : UInt64 := 10
  /-- The successes in a row that make a bound the answer. -/
  confirmations : Nat := 10
  /-- No bound above this one is tried. -/
  maxBound : UInt64 := 65536
deriving DecidableEq, Repr

/-- The word itself, or one instead of zero. -/
def atLeastOne (a : UInt64) : UInt64 := if a = 0 then 1 else a

@[simp]
theorem toNat_atLeastOne (a : UInt64) : (atLeastOne a).toNat = max a.toNat 1 := by
  unfold atLeastOne
  split
  · next h => subst h; rfl
  · next h =>
    have : a.toNat ≠ 0 := fun h' => h (UInt64.toNat_inj.1 h')
    omega

/-- The two phases of a search. -/
inductive SearchPhase
  | coarse
  | confirm
deriving DecidableEq, Repr

/-- The name of a phase. -/
def SearchPhase.name : SearchPhase → String
  | .coarse => "coarse"
  | .confirm => "confirm"

/-- Where a search stands before a trial. -/
structure SearchState where
  phase : SearchPhase
  /-- The bound of the next trial. -/
  bound : UInt64
  step : UInt64
  /-- The successes in a row at this bound in the confirm phase. -/
  successes : Nat
  trials : Nat
  /-- The bound of the success that ended the coarse phase. -/
  firstSuccess : Option UInt64
deriving DecidableEq, Repr

namespace SearchState

/-- The start of a search. -/
def start (config : SearchConfig) : SearchState :=
  { phase := .coarse
    bound := atLeastOne config.initialBound
    step := atLeastOne config.coarseStep
    successes := 0
    trials := 0
    firstSuccess := none }

/-- Takes the outcome of a trial at the current bound. The answer comes with the success that
completes the row, and again with each further success in it. -/
def advance (config : SearchConfig) (succeeded : Bool) (state : SearchState) :
    Option UInt64 × SearchState :=
  let state := { state with trials := state.trials + 1 }
  match state.phase, succeeded with
  | .coarse, true =>
    (none,
      { state with
        phase := .confirm
        bound := atLeastOne (saturatingSub state.bound (saturatingSub state.step 1))
        step := 1
        firstSuccess := some state.bound })
  | .coarse, false => (none, { state with bound := saturatingAdd state.bound state.step })
  | .confirm, true =>
    let successes := state.successes + 1
    (if max config.confirmations 1 ≤ successes then some state.bound else none,
      { state with successes })
  | .confirm, false =>
    (none, { state with successes := 0, bound := saturatingAdd state.bound state.step })

end SearchState

end RunMeter
