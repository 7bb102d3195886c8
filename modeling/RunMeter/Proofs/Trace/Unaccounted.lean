import RunMeter.Proofs.Trace.PhaseReading
import RunMeter.Proofs.Trace.Regions

/-!
# What a run leaves unaccounted

When a `run` region is closed, the durations that are tallied at that moment are taken off its own, and
no marker after that changes the entry (`seconds?_unaccounted`). The tally belongs to the `run` region
opened last. As long as that is the region itself, the tally is that of its direct children
(`tallied_of_runFree`). A `run` region inside it takes the tally over and does not give it back, so
that the entry may differ from what the direct children leave (`unaccounted_of_nested_run`).
-/

set_option autoImplicit false

namespace RunMeter

open RunMeter.Text

namespace Nesting

/-! ## Closed keys -/

/-- A key is used and its region is not open. -/
def IsClosed (nesting : Nesting) (key : RegionKey) : Prop :=
  key ∈ nesting.used ∧ key ∉ openKeys nesting.stack

theorem mem_used_leave {nesting : Nesting} {key : RegionKey} (h : key ∈ nesting.used)
    (time : Float) : key ∈ (nesting.leave time).used := by
  unfold leave
  split
  · exact h
  · split
    · rw [mem_used_settle]
      exact Or.inl h
    · exact h

/-- A closed key stays closed. -/
theorem IsClosed.follow {nesting : Nesting} {key : RegionKey} (h : nesting.IsClosed key)
    {timed : TimedMarker} (hallowed : nesting.Allows timed.marker) :
    (nesting.follow timed).IsClosed key := by
  obtain ⟨marker, time⟩ := timed
  cases marker with
  | before name =>
    constructor
    · exact List.mem_append_left _ h.1
    · rw [follow_before, enter_stack, openKeys_cons, List.mem_cons]
      rintro (rfl | hopen)
      · exact hallowed h.1
      · exact h.2 hopen
  | after name =>
    obtain ⟨region, outer, hstack, -⟩ := hallowed
    constructor
    · exact mem_used_leave h.1 time
    · have hopen := h.2
      rw [hstack, openKeys_cons, List.mem_cons, not_or] at hopen
      rw [follow_after, leave_stack hstack]
      exact hopen.2

/-- Closing a region closes its key. -/
theorem isClosed_leave {nesting : Nesting} (h : nesting.Coherent) {region : OpenRegion}
    {outer : List OpenRegion} (hstack : nesting.stack = region :: outer) (time : Float) :
    (nesting.leave time).IsClosed (outer.length + 1, region.name) := by
  constructor
  · apply mem_used_leave
    apply h.used_of_open
    rw [hstack, openKeys_cons]
    exact List.mem_cons_self
  · rw [leave_stack hstack]
    exact notMem_openKeys region.name (Nat.lt_succ_self _)

/-- No marker changes the duration of a closed key, unless it is the key of unaccounted time and the
`run` region above it is closed. -/
theorem lookup_follow {nesting : Nesting} (h : nesting.Coherent) {key : RegionKey}
    (hkey : nesting.IsClosed key) {timed : TimedMarker} (hallowed : nesting.Allows timed.marker)
    (hrun : ∀ depth, key = (depth + 1, unaccountedEntry) →
      nesting.IsClosed (depth, runRegion) ∨ ¬ (nesting.follow timed).IsClosed (depth, runRegion)) :
    (nesting.follow timed).settled.lookup key = nesting.settled.lookup key := by
  obtain ⟨marker, time⟩ := timed
  cases marker with
  | before name => rfl
  | after name =>
    obtain ⟨region, outer, hstack, -⟩ := hallowed
    have hopen := hkey.2
    rw [hstack, openKeys_cons, List.mem_cons, not_or] at hopen
    have hpop : (nesting.pop region outer time).settled.lookup key =
        nesting.settled.lookup key := lookup_cons_of_ne hopen.1 _ _
    rw [follow_after] at hrun
    rw [follow_after, leave_eq hstack]
    split
    · next hname =>
      -- The region that is closed here is a `run`, and the entry below it is another one.
      have hother : key ≠ (outer.length + 2, unaccountedEntry) := by
        intro heq
        have hclosed := isClosed_leave h hstack time
        rw [hname] at hclosed
        rcases hrun (outer.length + 1) heq with hbefore | hafter
        · apply hbefore.2
          rw [hstack, openKeys_cons, hname]
          exact List.mem_cons_self
        · exact hafter hclosed
      rw [settle, lookup_cons_of_ne hother]
      exact hpop
    · exact hpop

/-- A closed key stays closed along a run of markers. -/
theorem IsClosed.append {markers more : List TimedMarker} (h : WellNested (markers ++ more))
    {key : RegionKey} (hkey : (after markers).IsClosed key) :
    (after (markers ++ more)).IsClosed key := by
  induction more using List.reverseRecOn with
  | nil =>
    rw [List.append_nil]
    exact hkey
  | append_singleton more timed ih =>
    rw [← List.append_assoc] at h ⊢
    obtain ⟨hmore, hallowed⟩ := (wellNested_concat _ timed).1 h
    rw [after_concat]
    exact (ih hmore).follow hallowed

/-- No run of markers changes the duration of a closed key, unless it is the key of unaccounted time
and the `run` region above it is closed. -/
theorem lookup_append {markers more : List TimedMarker} (h : WellNested (markers ++ more))
    {key : RegionKey} (hkey : (after markers).IsClosed key)
    (hrun : ∀ depth, key = (depth + 1, unaccountedEntry) →
      (after markers).IsClosed (depth, runRegion) ∨
        ¬ (after (markers ++ more)).IsClosed (depth, runRegion)) :
    (after (markers ++ more)).settled.lookup key = (after markers).settled.lookup key := by
  induction more using List.reverseRecOn with
  | nil => rw [List.append_nil]
  | append_singleton more timed ih =>
    rw [← List.append_assoc] at h hrun ⊢
    obtain ⟨hmore, hallowed⟩ := (wellNested_concat _ timed).1 h
    rw [after_concat] at hrun ⊢
    rw [lookup_follow (coherent_after hmore) (hkey.append hmore) hallowed, ih hmore]
    · intro depth hdepth
      rcases hrun depth hdepth with hbefore | hafter
      · exact Or.inl hbefore
      · exact Or.inr fun hclosed => hafter (hclosed.follow hallowed)
    · intro depth hdepth
      rcases hrun depth hdepth with hbefore | hafter
      · exact Or.inl (hbefore.append hmore)
      · exact Or.inr hafter

/-- Closing a `run` region settles the entry below it. -/
theorem lookup_leave_run {nesting : Nesting} {region : OpenRegion} {outer : List OpenRegion}
    (hstack : nesting.stack = region :: outer) (hname : region.name = runRegion) (time : Float) :
    (nesting.leave time).settled.lookup (outer.length + 2, unaccountedEntry) =
      some (time - region.start - sumSeconds nesting.tallied) := by
  rw [leave_eq hstack, if_pos hname, settle, List.lookup_cons_self]

/-- Closing a `run` region closes its key and that of the entry below it. -/
theorem isClosed_leave_run {nesting : Nesting} (h : nesting.Coherent) {region : OpenRegion}
    {outer : List OpenRegion} (hstack : nesting.stack = region :: outer)
    (hname : region.name = runRegion) (time : Float) :
    (nesting.leave time).IsClosed (outer.length + 1, runRegion) ∧
      (nesting.leave time).IsClosed (outer.length + 2, unaccountedEntry) := by
  have hregion := isClosed_leave h hstack time
  rw [hname] at hregion
  refine ⟨hregion, ?_, ?_⟩
  · rw [leave_eq hstack, if_pos hname, mem_used_settle]
    exact Or.inr rfl
  · rw [leave_stack hstack]
    exact notMem_openKeys unaccountedEntry (Nat.lt_succ_of_lt (Nat.lt_succ_self _))

/-! ## One closed run -/

/-- The state before the closing of a region: it is the innermost one. -/
theorem after_inside_stack (before : List TimedMarker) (name : String) (start : Float)
    (inside : Regions) :
    (after (before ++ { marker := .before name, time := start } :: inside.markers)).stack =
      { name, start } :: (after before).stack := by
  rw [after_append, List.foldl_cons, foldl_markers_stack, follow_before, enter_stack]

/-- Before the closing of a `run` region, its row is tallied from nothing. -/
theorem after_inside_tallied (before : List TimedMarker) (start : Float) (inside : Regions) :
    (after (before ++ { marker := .before runRegion, time := start } :: inside.markers)).tallied =
      (inside.tally ((after before).stack.length + 2)
        ((after before).stack.length + 1, [])).2 := by
  have hlatest : ((after before).enter runRegion start).runDepth =
      some ((after before).stack.length + 1) := by
    rw [enter, if_pos rfl]
  have hfresh : ((after before).enter runRegion start).tallied = [] := by
    change (if runRegion = runRegion then [] else (after before).tallied) = []
    exact if_pos rfl
  rw [after_append, List.foldl_cons, follow_before, (foldl_markers_tally inside hlatest).2, hfresh,
    enter_stack, List.length_cons]

/-- The entry below a closed `run` region has what the tally leaves of the region's duration. -/
theorem seconds?_unaccounted {before post : List TimedMarker} {start stop : Float}
    {inside : Regions}
    (h : WellNested (before ++ { marker := .before runRegion, time := start } ::
      (inside.markers ++ { marker := .after runRegion, time := stop } :: post))) :
    (after (before ++ { marker := .before runRegion, time := start } ::
        (inside.markers ++ { marker := .after runRegion, time := stop } :: post))).seconds?
        ((after before).stack.length + 2, unaccountedEntry) =
      some (stop - start - sumSeconds (inside.tally ((after before).stack.length + 2)
        ((after before).stack.length + 1, [])).2) := by
  have hsplit : before ++ { marker := .before runRegion, time := start } ::
      (inside.markers ++ { marker := .after runRegion, time := stop } :: post) =
      (before ++ { marker := .before runRegion, time := start } :: inside.markers) ++
        [{ marker := .after runRegion, time := stop }] ++ post := by
    rw [List.append_assoc, List.append_assoc, List.cons_append, List.singleton_append]
  rw [hsplit] at h ⊢
  have hstack := after_inside_stack before runRegion start inside
  have hcoherent := coherent_after h.left.left
  obtain ⟨hrun, hentry⟩ := isClosed_leave_run hcoherent hstack rfl stop
  rw [← follow_after _ runRegion, ← after_concat] at hrun hentry
  have hlookup := lookup_append h hentry (by
    intro depth hdepth
    cases hdepth
    exact Or.inl hrun)
  rw [seconds?, if_neg (hentry.append h).2, hlookup, after_concat, follow_after,
    lookup_leave_run hstack rfl, after_inside_tallied]

/-! ## The entry -/

theorem find?_entries (nesting : Nesting) (keys : List RegionKey) (depth : Nat) (name : String) :
    Phases.seconds? (keys.filterMap fun key =>
        (nesting.seconds? key).map fun seconds => { name := key.2, depth := key.1, seconds })
        name depth =
      if (depth, name) ∈ keys then nesting.seconds? (depth, name) else none := by
  induction keys with
  | nil => rfl
  | cons key keys ih =>
    rw [Phases.seconds?] at ih ⊢
    by_cases h : key = (depth, name)
    · subst h
      rw [if_pos List.mem_cons_self, List.filterMap_cons]
      cases hseconds : nesting.seconds? (depth, name) with
      | none =>
        rw [hseconds, ite_self] at ih
        exact ih
      | some seconds =>
        rw [Option.map_some, List.find?_cons_of_pos]
        · rfl
        · rw [Bool.and_eq_true, beq_iff_eq, beq_iff_eq]
          exact ⟨rfl, rfl⟩
    · have hmem : (depth, name) ∈ key :: keys ↔ (depth, name) ∈ keys := by
        rw [List.mem_cons, or_iff_right (Ne.symm h)]
      rw [List.filterMap_cons]
      simp only [hmem]
      cases nesting.seconds? key with
      | none => exact ih
      | some seconds =>
        rw [Option.map_some, List.find?_cons_of_neg]
        · exact ih
        · rw [Bool.and_eq_true, beq_iff_eq, beq_iff_eq]
          rintro ⟨hname, hdepth⟩
          exact h (Prod.ext hdepth hname)

/-- The entry for unaccounted time is that of its key. -/
theorem Coherent.seconds?_entries {nesting : Nesting} (h : nesting.Coherent) (wall : Duration)
    (depth : Nat) :
    Phases.seconds? (nesting.entries wall) unaccountedEntry (depth + 1) =
      nesting.seconds? (depth + 1, unaccountedEntry) := by
  have hkeys : Phases.seconds? (nesting.entries wall) unaccountedEntry (depth + 1) =
      Phases.seconds? (nesting.used.filterMap fun key =>
        (nesting.seconds? key).map fun seconds => { name := key.2, depth := key.1, seconds })
        unaccountedEntry (depth + 1) := by
    rw [entries]
    cases nesting.seconds? (1, mainRegion) with
    | none => rfl
    | some seconds => rfl
  rw [hkeys, find?_entries]
  split
  · rfl
  · next hunused => exact (h.seconds?_eq_none hunused).symm

end Nesting

/-- What a closed `run` region leaves unaccounted. Every marker that closes a `run` region closes a row
of regions inside it, and the entry below the region has what the tally of that row leaves of its
duration. So the entry has what the direct children leave of it exactly if the two differences agree,
and it does if no `run` region is among the regions inside. -/
theorem unaccounted_eq_children_iff (trace : List Char) (wall : Duration)
    (entries : List PhaseEntry) (hparse : Phases.parse trace wall = .ok entries) :
    (∀ outside stop post,
      markersOf (lines trace) = outside ++ { marker := .after runRegion, time := stop } :: post →
      ∃ before start, ∃ inside : Regions,
        outside = before ++ { marker := .before runRegion, time := start } :: inside.markers) ∧
    ∀ before start (inside : Regions) stop post,
      markersOf (lines trace) = before ++ { marker := .before runRegion, time := start } ::
        (inside.markers ++ { marker := .after runRegion, time := stop } :: post) →
      let depth := (Nesting.after before).stack.length + 1
      let tallied := (inside.tally (depth + 1) (depth, [])).2
      Phases.seconds? entries unaccountedEntry (depth + 1) =
          some (stop - start - sumSeconds tallied) ∧
        (Phases.seconds? entries unaccountedEntry (depth + 1) =
            some (stop - start - sumSeconds inside.durations) ↔
          stop - start - sumSeconds tallied = stop - start - sumSeconds inside.durations) ∧
        (inside.RunFree → Phases.seconds? entries unaccountedEntry (depth + 1) =
          some (stop - start - sumSeconds inside.durations)) := by
  have hrules : FollowsRules (lines trace) := by
    by_contra hbroken
    obtain ⟨violation, hviolation⟩ := PhaseState.readLines_start_violation hbroken
    rw [Phases.parse, hviolation] at hparse
    cases hparse
  have hcoherent := Nesting.coherent_after hrules.2
  rw [Phases.parse, PhaseState.readLines_start hrules] at hparse
  cases hparse
  constructor
  · intro outside stop post hmarkers
    have hnested := hrules.2
    rw [hmarkers] at hnested
    exact exists_inside_of_close hnested
  · intro before start inside stop post hmarkers
    have hnested := hrules.2
    rw [hmarkers] at hnested
    have hentry := Nesting.seconds?_unaccounted hnested
    rw [← hmarkers, ← hcoherent.seconds?_entries wall, ← hcoherent.ofState_toState wall] at hentry
    refine ⟨hentry, ?_, ?_⟩
    · rw [hentry, Option.some.injEq]
    · intro hfree
      rw [Regions.tally_of_runFree hfree (Nat.lt_succ_self _), if_pos rfl] at hentry
      exact hentry

/-- A `run` region with two children, which take three quarters of a second of its three seconds. -/
theorem unaccounted_beside_two_children :
    let trace := ("before-run 1.0\nbefore-load 1.5\nafter-load 2.0\n" ++
      "before-save 2.0\nafter-save 2.25\nafter-run 4.0\n").toList
    let inside : Regions := .region "load" 1.5 2.0 .none (.region "save" 2.0 2.25 .none .none)
    ∃ entries, Phases.parse trace (Duration.ofSeconds 5) = .ok entries ∧ inside.RunFree ∧
      Phases.seconds? entries unaccountedEntry 2 =
        some (4.0 - 1.0 - sumSeconds inside.durations) ∧
      4.0 - 1.0 - sumSeconds inside.durations = 2.25 := by
  intro trace inside
  have hok : (Phases.parse trace (Duration.ofSeconds 5)).isOk = true := by decide +kernel
  cases hparse : Phases.parse trace (Duration.ofSeconds 5) with
  | error violation =>
    rw [hparse] at hok
    cases hok
  | ok entries =>
    have hfree : inside.RunFree := ⟨by decide, trivial, by decide, trivial, trivial⟩
    have hrun := (unaccounted_eq_children_iff trace (Duration.ofSeconds 5) entries hparse).2
      [] 1.0 inside 4.0 [] (by decide +kernel)
    exact ⟨entries, rfl, hfree, hrun.2.2 hfree, by decide +kernel⟩

/-- A `run` region right inside another: the inner one takes the tally over and counts for nothing, so
that all four seconds of the outer one are left, not three. -/
theorem unaccounted_of_nested_run :
    let trace := "before-run 0.0\nbefore-run 1.0\nafter-run 2.0\nafter-run 4.0\n".toList
    let inside : Regions := .region runRegion 1.0 2.0 .none .none
    markersOf (lines trace) = { marker := .before runRegion, time := 0.0 } ::
        (inside.markers ++ [{ marker := .after runRegion, time := 4.0 }]) ∧
      (Phases.parse trace (Duration.ofSeconds 4)).toOption.bind
          (Phases.seconds? · unaccountedEntry 2) = some 4.0 ∧
      4.0 - 0.0 - sumSeconds inside.durations = 3.0 ∧ (4.0 : Float) ≠ 3.0 := by
  decide +kernel

end RunMeter
