import RunMeter.Proofs.Trace.Nesting

/-!
# Closed regions as a forest

Between the marker that opens a region and the one that closes it stand the markers of closed regions
only. `Regions` is a row of closed regions, each with the row inside it, and `Regions.markers` writes
their markers out. A row leaves the stack as it was, so a well nested run of markers is a row for each
open region and one below them all (`Spine`); closing a region turns the region and its row into one
more region of the row below. `exists_inside_of_close` reads off the row inside a closed region.
-/

set_option autoImplicit false

namespace RunMeter

/-- Closed regions one after another, each with the regions inside it. -/
inductive Regions
  | none
  | region (name : String) (start stop : Float) (inside rest : Regions)

namespace Regions

/-- The markers of the regions in their order. -/
def markers : Regions → List TimedMarker
  | .none => []
  | .region name start stop inside rest =>
    { marker := .before name, time := start } ::
      (inside.markers ++ { marker := .after name, time := stop } :: rest.markers)

/-- The durations of the outermost regions in the order in which they are closed. -/
def durations : Regions → List Float
  | .none => []
  | .region _ start stop _ rest => (stop - start) :: rest.durations

/-- The depth of the `run` region opened last and the durations tallied right below it, after a row of
regions at a depth. A `run` region starts a new tally, and no tally is taken up again. -/
def tally : Regions → Nat → Nat × List Float → Nat × List Float
  | .none, _, tallied => tallied
  | .region name start stop inside rest, depth, tallied =>
    let below := inside.tally (depth + 1) (if name = runRegion then (depth, []) else tallied)
    rest.tally depth
      (below.1, if below.1 + 1 = depth then below.2 ++ [stop - start] else below.2)

/-- No region is named `run`, at whatever depth. -/
def RunFree : Regions → Prop
  | .none => True
  | .region name _ _ inside rest => name ≠ runRegion ∧ inside.RunFree ∧ rest.RunFree

/-- The regions of two rows one after another. -/
def append : Regions → Regions → Regions
  | .none, more => more
  | .region name start stop inside rest, more =>
    .region name start stop inside (rest.append more)

theorem markers_append (regions more : Regions) :
    (regions.append more).markers = regions.markers ++ more.markers := by
  induction regions with
  | none => rfl
  | region name start stop inside rest _ ih =>
    rw [append, markers, markers, ih, List.cons_append, List.append_assoc, List.cons_append]

/-- Without a `run` region among them, the regions right below the one opened last are tallied and no
others. -/
theorem tally_of_runFree {regions : Regions} (h : regions.RunFree) {depth latest : Nat}
    (hlatest : latest < depth) (tallied : List Float) :
    regions.tally depth (latest, tallied) =
      (latest, if latest + 1 = depth then tallied ++ regions.durations else tallied) := by
  induction regions generalizing depth tallied with
  | none => rw [tally, durations, List.append_nil, ite_self]
  | region name start stop inside rest ihInside ihRest =>
    obtain ⟨hname, hinside, hrest⟩ := h
    have hbelow : latest + 1 ≠ depth + 1 := by omega
    rw [tally, if_neg hname, ihInside hinside (Nat.lt_succ_of_lt hlatest), if_neg hbelow]
    dsimp only
    by_cases hdepth : latest + 1 = depth
    · rw [if_pos hdepth, if_pos hdepth, ihRest hrest hlatest, if_pos hdepth, durations,
        List.append_assoc]
      rfl
    · rw [if_neg hdepth, if_neg hdepth, ihRest hrest hlatest, if_neg hdepth]

end Regions

namespace Nesting

/-- The markers of closed regions leave the stack as it was. -/
theorem foldl_markers_stack (regions : Regions) (nesting : Nesting) :
    (regions.markers.foldl follow nesting).stack = nesting.stack := by
  induction regions generalizing nesting with
  | none => rfl
  | region name start stop inside rest ihInside ihRest =>
    rw [Regions.markers, List.foldl_cons, List.foldl_append, List.foldl_cons, ihRest]
    have hinside := ihInside (nesting.enter name start)
    rw [enter_stack] at hinside
    exact leave_stack hinside stop

/-- The markers of closed regions tally what their row does. -/
theorem foldl_markers_tally (regions : Regions) {nesting : Nesting} {latest : Nat}
    (h : nesting.runDepth = some latest) :
    let tally := regions.tally (nesting.stack.length + 1) (latest, nesting.tallied)
    (regions.markers.foldl follow nesting).runDepth = some tally.1 ∧
      (regions.markers.foldl follow nesting).tallied = tally.2 := by
  induction regions generalizing nesting latest with
  | none => exact ⟨h, rfl⟩
  | region name start stop inside rest ihInside ihRest =>
    -- The region that the row inside it leaves on top of the stack.
    have hstack := foldl_markers_stack inside (nesting.enter name start)
    rw [enter_stack] at hstack
    have hentered : (nesting.enter name start).runDepth =
        some (if name = runRegion then (nesting.stack.length + 1, []) else
          (latest, nesting.tallied)).1 := by
      rw [enter]
      split
      · rfl
      · exact h
    have htallied : (nesting.enter name start).tallied =
        (if name = runRegion then (nesting.stack.length + 1, []) else
          (latest, nesting.tallied)).2 := by
      rw [enter]
      split
      · rfl
      · rfl
    obtain ⟨hdepth, hbelow⟩ := ihInside hentered
    rw [htallied, enter_stack, List.length_cons] at hdepth hbelow
    have hleave := leave_runDepth hstack stop
    have hsum := leave_tallied hstack stop
    have hheight := congrArg List.length (leave_stack hstack stop)
    rw [hdepth] at hleave hsum
    have hrest := ihRest hleave
    have hright : ∀ height latest : Nat, some latest = some height ↔ latest + 1 = height + 1 := by
      intro height latest
      rw [Option.some.injEq]
      omega
    simp only [hsum, hbelow, hheight, hright] at hrest
    rw [Regions.markers, List.foldl_cons, List.foldl_append, List.foldl_cons, Regions.tally]
    exact hrest

end Nesting

/-! ## The markers of a stack -/

/-- A run of markers with a row of closed regions above each open region of a stack. -/
def Spine : List TimedMarker → List OpenRegion → Prop
  | markers, [] => ∃ regions : Regions, markers = regions.markers
  | markers, region :: outer => ∃ before, ∃ regions : Regions,
      markers = before ++ { marker := .before region.name, time := region.start } ::
        regions.markers ∧ Spine before outer

/-- More closed regions belong to the row above the innermost region. -/
theorem Spine.append {markers : List TimedMarker} {stack : List OpenRegion}
    (h : Spine markers stack) (more : Regions) : Spine (markers ++ more.markers) stack := by
  cases stack with
  | nil =>
    obtain ⟨regions, rfl⟩ := h
    exact ⟨regions.append more, (Regions.markers_append regions more).symm⟩
  | cons region outer =>
    obtain ⟨before, regions, rfl, houter⟩ := h
    refine ⟨before, regions.append more, ?_, houter⟩
    rw [Regions.markers_append, List.append_assoc, List.cons_append]

/-- A well nested run of markers is a spine of its stack. -/
theorem spine_after {markers : List TimedMarker} (h : WellNested markers) :
    Spine markers (Nesting.after markers).stack := by
  induction markers using List.reverseRecOn with
  | nil => exact ⟨.none, rfl⟩
  | append_singleton markers timed ih =>
    obtain ⟨hmarkers, hallowed⟩ := (wellNested_concat markers timed).1 h
    have hspine := ih hmarkers
    rw [Nesting.after_concat]
    obtain ⟨marker, time⟩ := timed
    cases marker with
    | before name => exact ⟨markers, .none, rfl, hspine⟩
    | after name =>
      obtain ⟨region, outer, hstack, rfl⟩ := hallowed
      rw [hstack] at hspine
      obtain ⟨before, regions, rfl, houter⟩ := hspine
      have hclosed := houter.append (.region region.name region.start time regions .none)
      rw [Regions.markers, Regions.markers] at hclosed
      rw [Nesting.follow_after, Nesting.leave_stack hstack, List.append_assoc]
      exact hclosed

/-- The markers between the opening and the closing of a region are those of closed regions. -/
theorem exists_inside_of_close {before after : List TimedMarker} {name : String} {stop : Float}
    (h : WellNested (before ++ { marker := .after name, time := stop } :: after)) :
    ∃ outside start, ∃ inside : Regions,
      before = outside ++ { marker := .before name, time := start } :: inside.markers := by
  obtain ⟨region, outer, hstack, rfl⟩ := h before _ after rfl
  have hspine := spine_after h.left
  rw [hstack] at hspine
  obtain ⟨outside, inside, hbefore, -⟩ := hspine
  exact ⟨outside, region.start, inside, hbefore⟩

end RunMeter
