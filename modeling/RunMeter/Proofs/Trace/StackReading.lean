import RunMeter.Proofs.Trace.Nesting
import RunMeter.Proofs.Trace.TimedLine

/-!
# Reading a trace as reading nested regions

The state that reads a trace has a counter and a table of slots where a `Nesting` has a stack.
`Nesting.toState` is the state that a nesting stands for: the counter is the height of the stack, and
the table has a slot for each used key. Every marker that is allowed takes the state of a nesting to
the state of the next one, and every other marker is a violation (`enter_toState`, `leave_toState`).
By induction on the lines a trace is read without violation exactly if its times can be read and its
markers are well nested, and `readLines_start` names the state that is reached.
-/

set_option autoImplicit false

namespace RunMeter

open RunMeter.Text

namespace Nesting

/-! ## The state of a nesting -/

/-- The state of the slot for a key: open if its region is, else closed with what was settled last. -/
def slotState (nesting : Nesting) (key : RegionKey) : SlotState :=
  match (openings nesting.stack).lookup key with
  | some start => .opened start
  | none => .closed ((nesting.settled.lookup key).getD 0.0)

/-- The state that a nesting stands for. -/
def toState (nesting : Nesting) : PhaseState :=
  { table := PhaseTable.ofKeys nesting.used nesting.slotState
    depth := nesting.stack.length
    runDepth := nesting.runDepth
    accounted := sumSeconds nesting.tallied }

theorem slotState_of_notMem {nesting : Nesting} {key : RegionKey}
    (h : key ∉ openKeys nesting.stack) :
    nesting.slotState key = .closed ((nesting.settled.lookup key).getD 0.0) := by
  rw [slotState, (lookup_openings_eq_none_iff _ key).2 h]

theorem slotState_of_mem {nesting : Nesting} {key : RegionKey}
    (h : key ∈ openKeys nesting.stack) : ∃ start, nesting.slotState key = .opened start := by
  rw [slotState]
  cases hlookup : (openings nesting.stack).lookup key with
  | none => exact absurd h ((lookup_openings_eq_none_iff _ key).1 hlookup)
  | some start => exact ⟨start, rfl⟩

/-- The slot of the innermost region is open since its start. -/
theorem slotState_innermost {nesting : Nesting} {region : OpenRegion} {outer : List OpenRegion}
    (h : nesting.stack = region :: outer) :
    nesting.slotState (outer.length + 1, region.name) = .opened region.start := by
  rw [slotState, h, openings, List.lookup_cons_self]

theorem slotState_enter (nesting : Nesting) (name : String) (time : Float) :
    (nesting.enter name time).slotState =
      Function.update nesting.slotState (nesting.stack.length + 1, name) (.opened time) := by
  funext key
  by_cases h : key = (nesting.stack.length + 1, name)
  · have hstack : (nesting.enter name time).stack = { name, start := time } :: nesting.stack := rfl
    rw [h, Function.update_self]
    exact slotState_innermost hstack
  · rw [Function.update_of_ne h, slotState, enter, openings, lookup_cons_of_ne h]
    rfl

theorem slotState_pop {nesting : Nesting} {region : OpenRegion} {outer : List OpenRegion}
    (h : nesting.stack = region :: outer) (time : Float) :
    (nesting.pop region outer time).slotState =
      Function.update nesting.slotState (outer.length + 1, region.name)
        (.closed (time - region.start)) := by
  funext key
  by_cases hkey : key = (outer.length + 1, region.name)
  · rw [hkey, Function.update_self]
    have hclosed : (outer.length + 1, region.name) ∉
        openKeys (nesting.pop region outer time).stack :=
      notMem_openKeys region.name (Nat.lt_succ_self _)
    rw [slotState_of_notMem hclosed, pop, List.lookup_cons_self]
    rfl
  · rw [Function.update_of_ne hkey, slotState, slotState, h, openings, lookup_cons_of_ne hkey, pop,
      lookup_cons_of_ne hkey]

theorem slotState_settle {nesting : Nesting} {key : RegionKey} (h : key ∉ openKeys nesting.stack)
    (seconds : Float) :
    (nesting.settle key seconds).slotState =
      Function.update nesting.slotState key (.closed seconds) := by
  funext other
  by_cases hother : other = key
  · rw [hother, Function.update_self]
    have hclosed : key ∉ openKeys (nesting.settle key seconds).stack := h
    rw [slotState_of_notMem hclosed, settle, List.lookup_cons_self]
    rfl
  · rw [Function.update_of_ne hother, slotState, slotState, settle, lookup_cons_of_ne hother]

theorem sumSeconds_concat (durations : List Float) (seconds : Float) :
    sumSeconds (durations ++ [seconds]) = sumSeconds durations + seconds := by
  rw [sumSeconds, List.foldl_append]
  rfl

/-! ## One marker -/

/-- A region can be opened exactly if its key is new, and then the states keep in step. -/
theorem enter_toState (nesting : Nesting) (name : String) (time : Float) :
    nesting.toState.enter name time =
      if (nesting.stack.length + 1, name) ∈ nesting.used then
        .error (.duplicate name (nesting.stack.length + 1))
      else .ok (nesting.enter name time).toState := by
  have hopen := PhaseTable.openRegion_ofKeys nesting.used nesting.slotState
    (nesting.stack.length + 1) name time
  rw [← slotState_enter] at hopen
  unfold PhaseState.enter
  simp only [toState, hopen]
  by_cases h : (nesting.stack.length + 1, name) ∈ nesting.used
  · simp only [if_pos h]
  · simp only [if_neg h]
    by_cases hname : name = runRegion
    · simp only [if_pos hname, enter]
      rfl
    · simp only [if_neg hname, enter]
      rfl

/-- Closing a region that is not the innermost one is a violation. -/
theorem leave_toState_unmatched {nesting : Nesting} {name : String}
    (h : (nesting.stack.length, name) ∉ openKeys nesting.stack) (time : Float) :
    nesting.toState.leave name time = .error (.unmatched name nesting.stack.length) := by
  have hclose := PhaseTable.closeRegion_ofKeys_closed nesting.used (slotState_of_notMem h) time
  unfold PhaseState.leave
  simp only [toState, hclose]

theorem any_runDepth (runDepth : Option Nat) (height : Nat) :
    (runDepth.any fun latest => height + 1 == latest + 1) = decide (runDepth = some height) := by
  cases runDepth with
  | none => rfl
  | some latest =>
    rw [Option.any_some, Bool.eq_iff_iff, beq_iff_eq, decide_eq_true_iff, Option.some.injEq]
    omega

/-- A `run` region is never right below the one opened last. -/
theorem Coherent.runDepth_ne {nesting : Nesting} (h : nesting.Coherent) {region : OpenRegion}
    {outer : List OpenRegion} (hstack : nesting.stack = region :: outer)
    (hname : region.name = runRegion) : nesting.runDepth ≠ some outer.length := by
  intro hbelow
  have hopen : (outer.length + 1, runRegion) ∈ openKeys nesting.stack := by
    rw [hstack, openKeys_cons, hname]
    exact List.mem_cons_self
  obtain ⟨latest, hlatest, hle⟩ := h.run_le _ hopen
  rw [hbelow] at hlatest
  cases hlatest
  omega

/-- The innermost region can be closed, and then the states keep in step. -/
theorem leave_toState {nesting : Nesting} (h : nesting.Coherent) {region : OpenRegion}
    {outer : List OpenRegion} (hstack : nesting.stack = region :: outer) (time : Float) :
    nesting.toState.leave region.name time = .ok (nesting.leave time).toState := by
  have hused : (outer.length + 1, region.name) ∈ nesting.used := by
    apply h.used_of_open
    rw [hstack, openKeys_cons]
    exact List.mem_cons_self
  have hclose := PhaseTable.closeRegion_ofKeys h.nodup hused (slotState_innermost hstack) time
  rw [← slotState_pop hstack] at hclose
  unfold PhaseState.leave
  simp only [toState, hstack, List.length_cons, hclose, any_runDepth, decide_eq_true_eq, leave]
  by_cases hname : region.name = runRegion
  · -- The table gets a slot for what is left, unless it has one.
    have hrest : (outer.length + 2, unaccountedEntry) ∉
        openKeys (nesting.pop region outer time).stack :=
      notMem_openKeys unaccountedEntry (Nat.lt_succ_of_lt (Nat.lt_succ_self _))
    have hrecord := PhaseTable.record_ofKeys (h.pop hstack time).nodup
      (nesting.pop region outer time).slotState (outer.length + 2) unaccountedEntry
      (time - region.start - sumSeconds nesting.tallied)
    rw [← slotState_settle hrest, pop_used] at hrecord
    have htallied := tallied_pop_of_ne (h.runDepth_ne hstack hname) region time
    simp only [if_neg (h.runDepth_ne hstack hname), if_pos hname, hrecord, settle_tallied, htallied]
    rfl
  · by_cases hbelow : nesting.runDepth = some outer.length
    · simp only [if_pos hbelow, if_neg hname, pop, sumSeconds_concat]
      rfl
    · simp only [if_neg hbelow, if_neg hname, pop]
      rfl

/-- At the current depth only the innermost region is open. -/
theorem allows_after_of_mem {nesting : Nesting} {name : String}
    (h : (nesting.stack.length, name) ∈ openKeys nesting.stack) : nesting.Allows (.after name) := by
  cases hstack : nesting.stack with
  | nil =>
    rw [hstack] at h
    cases h
  | cons region outer =>
    rw [hstack, openKeys_cons, List.mem_cons] at h
    rcases h with heq | hmem
    · cases heq
      exact ⟨region, outer, hstack, rfl⟩
    · exact absurd hmem (notMem_openKeys name (Nat.lt_succ_self _))

/-- A marker that is allowed keeps the states in step. -/
theorem follow_toState {nesting : Nesting} (h : nesting.Coherent) {timed : TimedMarker}
    (hallowed : nesting.Allows timed.marker) :
    nesting.toState.follow timed.time (some timed.marker) = .ok (nesting.follow timed).toState := by
  obtain ⟨marker, time⟩ := timed
  cases marker with
  | before name => exact (enter_toState nesting name time).trans (if_neg hallowed)
  | after name =>
    obtain ⟨region, outer, hstack, rfl⟩ := hallowed
    exact leave_toState h hstack time

/-- A marker that is not allowed is a violation. -/
theorem follow_toState_violation {nesting : Nesting} {marker : Marker}
    (hforbidden : ¬ nesting.Allows marker) (time : Float) :
    ∃ violation, nesting.toState.follow time (some marker) = .error violation := by
  cases marker with
  | before name =>
    have hused : (nesting.stack.length + 1, name) ∈ nesting.used := Classical.not_not.1 hforbidden
    exact ⟨_, (enter_toState nesting name time).trans (if_pos hused)⟩
  | after name =>
    have hother : (nesting.stack.length, name) ∉ openKeys nesting.stack := by
      intro hmem
      exact hforbidden (allows_after_of_mem hmem)
    exact ⟨_, leave_toState_unmatched hother time⟩

end Nesting

/-! ## Lines -/

/-- The marker of a line with its time, if the line is timed, announces a marker and has a time that
can be read. -/
def TimedMarker.ofLine? (line : List Char) : Option TimedMarker :=
  match TimedLine.ofLine? line with
  | none => none
  | some timed =>
    match Binary64.readPlain timed.time with
    | .error _ => none
    | .ok time => (Marker.ofText? timed.text).map fun marker => { marker, time }

/-- The markers of lines in their order. -/
def markersOf (lines : List (List Char)) : List TimedMarker :=
  lines.filterMap TimedMarker.ofLine?

/-- The time of a line can be read, if the line is timed. -/
def TimeReadable (line : List Char) : Prop :=
  ∀ text time, IsTimed line text time → ∃ seconds, Binary64.readPlain time = .ok seconds

/-- A line has a marker if it is the text of the marker, a blank and a time that can be read. -/
theorem TimedMarker.ofLine?_eq_some_iff (line : List Char) (timed : TimedMarker) :
    TimedMarker.ofLine? line = some timed ↔
      ∃ time, IsTimed line timed.marker.text time ∧
        Binary64.readPlain time = .ok timed.time := by
  obtain ⟨marker, seconds⟩ := timed
  unfold TimedMarker.ofLine?
  constructor
  · intro h
    cases hline : TimedLine.ofLine? line with
    | none =>
      simp only [hline] at h
      cases h
    | some parts =>
      obtain ⟨text, time⟩ := parts
      cases htime : Binary64.readPlain time with
      | error fault =>
        simp only [hline, htime] at h
        cases h
      | ok value =>
        simp only [hline, htime] at h
        obtain ⟨other, hmarker, heq⟩ := Option.map_eq_some_iff.1 h
        cases heq
        rw [Marker.ofText?_eq_some_iff] at hmarker
        rw [TimedLine.ofLine?_eq_some_iff, hmarker] at hline
        exact ⟨time, hline, htime⟩
  · rintro ⟨time, htimed, htime⟩
    have hline := (TimedLine.ofLine?_eq_some_iff line _ time).2 htimed
    have hmarker := (Marker.ofText?_eq_some_iff _ marker).2 rfl
    simp only [hline, htime, hmarker]
    rfl

theorem markersOf_concat (lines : List (List Char)) (line : List Char) :
    markersOf (lines ++ [line]) = markersOf lines ++ (TimedMarker.ofLine? line).toList := by
  rw [markersOf, List.filterMap_append, List.filterMap_cons, List.filterMap_nil]
  cases TimedMarker.ofLine? line with
  | none => rfl
  | some timed => rfl

/-- What a line leads to. -/
def Nesting.followLine (nesting : Nesting) (line : List Char) : Nesting :=
  (TimedMarker.ofLine? line).elim nesting nesting.follow

/-- Whether a line may come next: its time can be read and its marker is allowed, as far as it has
them. -/
def Nesting.AllowsLine (nesting : Nesting) (line : List Char) : Prop :=
  TimeReadable line ∧ ∀ timed, TimedMarker.ofLine? line = some timed → nesting.Allows timed.marker

namespace Nesting

/-- A line that is allowed keeps the states in step. -/
theorem readLine_toState {nesting : Nesting} (h : nesting.Coherent) {line : List Char}
    (hallowed : nesting.AllowsLine line) :
    nesting.toState.readLine line = .ok (nesting.followLine line).toState := by
  obtain ⟨hreadable, hmarkers⟩ := hallowed
  unfold followLine TimedMarker.ofLine? PhaseState.readLine
  unfold TimedMarker.ofLine? at hmarkers
  cases hline : TimedLine.ofLine? line with
  | none => rfl
  | some parts =>
    obtain ⟨text, time⟩ := parts
    obtain ⟨seconds, htime⟩ := hreadable text time ((TimedLine.ofLine?_eq_some_iff _ _ _).1 hline)
    simp only [hline, htime] at hmarkers ⊢
    cases hmarker : Marker.ofText? text with
    | none => rfl
    | some marker =>
      rw [hmarker] at hmarkers
      exact follow_toState h (hmarkers { marker, time := seconds } rfl)

/-- A line that is not allowed is a violation. -/
theorem readLine_toState_violation {nesting : Nesting} {line : List Char}
    (hforbidden : ¬ nesting.AllowsLine line) :
    ∃ violation, nesting.toState.readLine line = .error violation := by
  unfold PhaseState.readLine
  cases hline : TimedLine.ofLine? line with
  | none =>
    -- A line that is not timed is allowed.
    refine absurd ⟨?_, ?_⟩ hforbidden
    · intro text time htimed
      rw [(TimedLine.ofLine?_eq_some_iff _ _ _).2 htimed] at hline
      cases hline
    · intro timed htimed
      rw [TimedMarker.ofLine?, hline] at htimed
      cases htimed
  | some parts =>
    obtain ⟨text, time⟩ := parts
    cases htime : Binary64.readPlain time with
    | error fault =>
      simp only [htime]
      exact ⟨_, rfl⟩
    | ok seconds =>
      have hreadable : TimeReadable line := by
        intro otherText otherTime htimed
        rw [(TimedLine.ofLine?_eq_some_iff _ _ _).2 htimed] at hline
        cases hline
        exact ⟨seconds, htime⟩
      cases hmarker : Marker.ofText? text with
      | none =>
        refine absurd ⟨hreadable, ?_⟩ hforbidden
        intro timed htimed
        simp only [TimedMarker.ofLine?, hline, htime, hmarker] at htimed
        cases htimed
      | some marker =>
        simp only [htime, hmarker]
        apply follow_toState_violation
        intro hmarkerAllowed
        apply hforbidden
        refine ⟨hreadable, ?_⟩
        intro timed htimed
        simp only [TimedMarker.ofLine?, hline, htime, hmarker, Option.map_some,
          Option.some.injEq] at htimed
        subst htimed
        exact hmarkerAllowed

end Nesting

end RunMeter
