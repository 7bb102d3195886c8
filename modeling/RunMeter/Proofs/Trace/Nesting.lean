import Mathlib.Data.List.Induction
import Mathlib.Data.List.Nodup
import RunMeter.Proofs.Trace.PhaseTable

/-!
# Nested regions on a stack

The markers of a trace can be read with a stack of open regions. A region is opened on top of the
stack and the region on top is closed; its depth is the height at which it stands. `Nesting` keeps,
beside the stack, the keys used so far in the order of their first use and the durations that were
settled, the latest first. `Nesting.Allows` is the rule for the next marker, and `WellNested` the rule
for a whole run of markers: it has no counter of depths and no slots.

`Nesting.Coherent` is what the rule preserves. It says how the stack, the used keys and the settled
durations belong together, and that an open `run` region is never deeper than the one opened last.
-/

set_option autoImplicit false

namespace RunMeter

/-- A marker with the time of its line. -/
structure TimedMarker where
  marker : Marker
  time : Float
deriving DecidableEq, Repr

/-- A region that is still open. -/
structure OpenRegion where
  name : String
  start : Float
deriving DecidableEq, Repr

/-- The keys of the open regions of a stack with their starts. A region has the depth at which it
stands in the stack. -/
def openings : List OpenRegion → List (RegionKey × Float)
  | [] => []
  | region :: outer => ((outer.length + 1, region.name), region.start) :: openings outer

/-- The keys of the open regions of a stack. -/
def openKeys (stack : List OpenRegion) : List RegionKey := (openings stack).map Prod.fst

/-- Durations added up from zero in their order. -/
def sumSeconds (durations : List Float) : Float := durations.foldl (· + ·) 0.0

/-- What a run of markers has opened, used and settled. -/
structure Nesting where
  /-- The open regions, the innermost first. -/
  stack : List OpenRegion := []
  /-- The keys in the order of their first use. -/
  used : List RegionKey := []
  /-- The durations that were settled, the latest first. -/
  settled : List (RegionKey × Float) := []
  /-- The depth of the `run` region opened last. -/
  runDepth : Option Nat := none
  /-- The durations of the regions closed right below that depth since then. -/
  tallied : List Float := []

namespace Nesting

/-- Opens a region on top of the stack. -/
def enter (nesting : Nesting) (name : String) (time : Float) : Nesting :=
  { stack := { name, start := time } :: nesting.stack
    used := nesting.used ++ [(nesting.stack.length + 1, name)]
    settled := nesting.settled
    runDepth := if name = runRegion then some (nesting.stack.length + 1) else nesting.runDepth
    tallied := if name = runRegion then [] else nesting.tallied }

/-- Settles a duration for a key, which counts as its first use if it has none. -/
def settle (nesting : Nesting) (key : RegionKey) (seconds : Float) : Nesting :=
  { nesting with
    used := if key ∈ nesting.used then nesting.used else nesting.used ++ [key]
    settled := (key, seconds) :: nesting.settled }

/-- Takes a region off the stack and settles its duration, which is tallied if the region stands right
below the depth of the `run` region opened last. -/
def pop (nesting : Nesting) (region : OpenRegion) (outer : List OpenRegion) (time : Float) :
    Nesting :=
  { nesting with
    stack := outer
    settled := ((outer.length + 1, region.name), time - region.start) :: nesting.settled
    tallied :=
      if nesting.runDepth = some outer.length then nesting.tallied ++ [time - region.start]
      else nesting.tallied }

/-- Closes the innermost region. A `run` region also settles what the tallied durations leave of its
own, for the depth below it. -/
def leave (nesting : Nesting) (time : Float) : Nesting :=
  match nesting.stack with
  | [] => nesting
  | region :: outer =>
    if region.name = runRegion then
      (nesting.pop region outer time).settle (outer.length + 2, unaccountedEntry)
        (time - region.start - sumSeconds nesting.tallied)
    else nesting.pop region outer time

/-- Follows one marker. -/
def follow (nesting : Nesting) (timed : TimedMarker) : Nesting :=
  match timed.marker with
  | .before name => nesting.enter name timed.time
  | .after _ => nesting.leave timed.time

/-- Whether a marker may come next: a region is opened with a key that is not used, and only the
innermost region is closed. -/
def Allows (nesting : Nesting) : Marker → Prop
  | .before name => (nesting.stack.length + 1, name) ∉ nesting.used
  | .after name => ∃ region outer, nesting.stack = region :: outer ∧ region.name = name

/-- What a run of markers leads to. -/
def after (markers : List TimedMarker) : Nesting := markers.foldl follow {}

/-- The duration of a key: the one settled last, unless its region is open. -/
def seconds? (nesting : Nesting) (key : RegionKey) : Option Float :=
  if key ∈ openKeys nesting.stack then none else nesting.settled.lookup key

@[simp]
theorem follow_before (nesting : Nesting) (name : String) (time : Float) :
    nesting.follow { marker := .before name, time } = nesting.enter name time := rfl

@[simp]
theorem follow_after (nesting : Nesting) (name : String) (time : Float) :
    nesting.follow { marker := .after name, time } = nesting.leave time := rfl

@[simp]
theorem enter_stack (nesting : Nesting) (name : String) (time : Float) :
    (nesting.enter name time).stack = { name, start := time } :: nesting.stack := rfl

@[simp]
theorem pop_used (nesting : Nesting) (region : OpenRegion) (outer : List OpenRegion)
    (time : Float) : (nesting.pop region outer time).used = nesting.used := rfl

@[simp]
theorem settle_tallied (nesting : Nesting) (key : RegionKey) (seconds : Float) :
    (nesting.settle key seconds).tallied = nesting.tallied := rfl

/-- A region that does not stand right below the `run` region opened last is not tallied. -/
theorem tallied_pop_of_ne {nesting : Nesting} {outer : List OpenRegion}
    (h : nesting.runDepth ≠ some outer.length) (region : OpenRegion) (time : Float) :
    (nesting.pop region outer time).tallied = nesting.tallied := if_neg h

theorem leave_eq {nesting : Nesting} {region : OpenRegion} {outer : List OpenRegion}
    (h : nesting.stack = region :: outer) (time : Float) :
    nesting.leave time =
      if region.name = runRegion then
        (nesting.pop region outer time).settle (outer.length + 2, unaccountedEntry)
          (time - region.start - sumSeconds nesting.tallied)
      else nesting.pop region outer time := by
  simp only [leave, h]

/-- Closing takes the innermost region off the stack. -/
theorem leave_stack {nesting : Nesting} {region : OpenRegion} {outer : List OpenRegion}
    (h : nesting.stack = region :: outer) (time : Float) : (nesting.leave time).stack = outer := by
  rw [leave_eq h]
  split
  · rfl
  · rfl

theorem leave_runDepth {nesting : Nesting} {region : OpenRegion} {outer : List OpenRegion}
    (h : nesting.stack = region :: outer) (time : Float) :
    (nesting.leave time).runDepth = nesting.runDepth := by
  rw [leave_eq h]
  split
  · rfl
  · rfl

theorem leave_tallied {nesting : Nesting} {region : OpenRegion} {outer : List OpenRegion}
    (h : nesting.stack = region :: outer) (time : Float) :
    (nesting.leave time).tallied =
      if nesting.runDepth = some outer.length then nesting.tallied ++ [time - region.start]
      else nesting.tallied := by
  rw [leave_eq h]
  split
  · rfl
  · rfl

theorem after_append (markers more : List TimedMarker) :
    after (markers ++ more) = more.foldl follow (after markers) := List.foldl_append

theorem after_concat (markers : List TimedMarker) (timed : TimedMarker) :
    after (markers ++ [timed]) = (after markers).follow timed := after_append markers [timed]

end Nesting

/-- Every marker is allowed by the markers before it. -/
def WellNested (markers : List TimedMarker) : Prop :=
  ∀ read timed rest, markers = read ++ timed :: rest →
    (Nesting.after read).Allows timed.marker

theorem WellNested.nil : WellNested [] := by
  intro read timed rest h
  cases read with
  | nil => cases h
  | cons first read => cases h

theorem wellNested_concat (markers : List TimedMarker) (timed : TimedMarker) :
    WellNested (markers ++ [timed]) ↔
      WellNested markers ∧ (Nesting.after markers).Allows timed.marker := by
  constructor
  · intro h
    refine ⟨?_, h markers timed [] rfl⟩
    intro read next rest hsplit
    apply h read next (rest ++ [timed])
    rw [hsplit, List.append_assoc]
    rfl
  · rintro ⟨hmarkers, hlast⟩ read next rest hsplit
    rcases List.eq_nil_or_concat rest with rfl | ⟨rest, last, rfl⟩
    · obtain ⟨rfl, hnext⟩ := List.append_inj' hsplit rfl
      cases hnext
      exact hlast
    · apply hmarkers read next rest
      rw [List.concat_eq_append, ← List.cons_append, ← List.append_assoc] at hsplit
      exact (List.append_inj' hsplit rfl).1

/-- What comes first in a well nested run is well nested. -/
theorem WellNested.left {markers more : List TimedMarker} (h : WellNested (markers ++ more)) :
    WellNested markers := by
  intro read timed rest hsplit
  apply h read timed (rest ++ more)
  rw [hsplit, List.append_assoc]
  rfl

/-! ## Open regions -/

theorem openKeys_cons (region : OpenRegion) (outer : List OpenRegion) :
    openKeys (region :: outer) = (outer.length + 1, region.name) :: openKeys outer := rfl

/-- An open region stands at a depth from one to the height of the stack. -/
theorem depth_of_mem_openKeys {stack : List OpenRegion} {key : RegionKey}
    (h : key ∈ openKeys stack) : 1 ≤ key.1 ∧ key.1 ≤ stack.length := by
  induction stack with
  | nil => cases h
  | cons region outer ih =>
    rw [openKeys_cons, List.mem_cons] at h
    rw [List.length_cons]
    rcases h with rfl | h
    · exact ⟨Nat.le_add_left _ _, Nat.le_refl _⟩
    · have := ih h
      omega

/-- A depth above the stack has no open region. -/
theorem notMem_openKeys {stack : List OpenRegion} {depth : Nat} (name : String)
    (h : stack.length < depth) : (depth, name) ∉ openKeys stack := by
  intro hmem
  have := depth_of_mem_openKeys hmem
  omega

theorem nodup_openKeys (stack : List OpenRegion) : (openKeys stack).Nodup := by
  induction stack with
  | nil => exact List.nodup_nil
  | cons region outer ih =>
    rw [openKeys_cons, List.nodup_cons]
    exact ⟨notMem_openKeys region.name (Nat.lt_succ_self _), ih⟩

/-- At each depth from one to the height of the stack there is exactly one open region. -/
theorem countP_openKeys (stack : List OpenRegion) (depth : Nat) :
    (openKeys stack).countP (fun key => key.1 == depth) =
      if 1 ≤ depth ∧ depth ≤ stack.length then 1 else 0 := by
  induction stack with
  | nil =>
    rw [List.length_nil, if_neg (by omega)]
    rfl
  | cons region outer ih =>
    rw [openKeys_cons, List.countP_cons, ih, List.length_cons]
    by_cases htop : outer.length + 1 = depth
    · have houter : ¬ (1 ≤ depth ∧ depth ≤ outer.length) := by omega
      have hhere : 1 ≤ depth ∧ depth ≤ outer.length + 1 := by omega
      rw [if_neg houter, if_pos (beq_iff_eq.2 htop), if_pos hhere]
    · have hsame : (1 ≤ depth ∧ depth ≤ outer.length) ↔ (1 ≤ depth ∧ depth ≤ outer.length + 1) := by
        omega
      have hother : ¬ (outer.length + 1 == depth) = true := by
        rw [beq_iff_eq]
        exact htop
      simp only [if_neg hother, hsame, Nat.add_zero]

theorem lookup_cons_of_ne {key other : RegionKey} (h : key ≠ other) (seconds : Float)
    (rest : List (RegionKey × Float)) :
    ((other, seconds) :: rest).lookup key = rest.lookup key := by
  rw [List.lookup_cons, beq_false_of_ne h]

theorem lookup_openings_eq_none_iff (stack : List OpenRegion) (key : RegionKey) :
    (openings stack).lookup key = none ↔ key ∉ openKeys stack := by
  rw [List.lookup_eq_none_iff, openKeys, List.mem_map]
  constructor
  · rintro h ⟨opening, hmem, rfl⟩
    exact absurd (h opening hmem) (by rw [bne_self_eq_false]; exact Bool.false_ne_true)
  · intro h opening hmem
    rw [bne_iff_ne]
    rintro rfl
    exact h ⟨opening, hmem, rfl⟩

namespace Nesting

/-! ## What the rule preserves -/

/-- How the stack, the used keys and the settled durations belong together. -/
structure Coherent (nesting : Nesting) : Prop where
  nodup : nesting.used.Nodup
  used_of_open : ∀ key ∈ openKeys nesting.stack, key ∈ nesting.used
  settled_of_used : ∀ key ∈ nesting.used, key ∉ openKeys nesting.stack →
    (nesting.settled.lookup key).isSome
  used_of_settled : ∀ key, (nesting.settled.lookup key).isSome → key ∈ nesting.used
  run_le : ∀ depth, (depth, runRegion) ∈ openKeys nesting.stack →
    ∃ latest, nesting.runDepth = some latest ∧ depth ≤ latest

theorem coherent_start : Coherent {} where
  nodup := List.nodup_nil
  used_of_open := by
    intro key h
    cases h
  settled_of_used := by
    intro key h
    cases h
  used_of_settled := by
    intro key h
    cases h
  run_le := by
    intro depth h
    cases h

/-- Opening a region with a new key preserves coherence. -/
theorem Coherent.enter {nesting : Nesting} (h : nesting.Coherent) {name : String}
    (hnew : (nesting.stack.length + 1, name) ∉ nesting.used) (time : Float) :
    (nesting.enter name time).Coherent where
  nodup := List.Nodup.append h.nodup (List.nodup_singleton _)
    (List.disjoint_singleton.2 hnew)
  used_of_open := by
    intro key hkey
    rw [Nesting.enter, openKeys_cons, List.mem_cons] at hkey
    rw [Nesting.enter, List.mem_append, List.mem_singleton]
    rcases hkey with rfl | hkey
    · exact Or.inr rfl
    · exact Or.inl (h.used_of_open key hkey)
  settled_of_used := by
    intro key hkey hopen
    rw [Nesting.enter, List.mem_append, List.mem_singleton] at hkey
    rw [Nesting.enter, openKeys_cons, List.mem_cons, not_or] at hopen
    rcases hkey with hkey | rfl
    · exact h.settled_of_used key hkey hopen.2
    · exact absurd rfl hopen.1
  used_of_settled := by
    intro key hkey
    rw [Nesting.enter, List.mem_append]
    exact Or.inl (h.used_of_settled key hkey)
  run_le := by
    intro depth hkey
    rw [Nesting.enter, openKeys_cons, List.mem_cons] at hkey
    rw [Nesting.enter]
    by_cases hname : name = runRegion
    · refine ⟨nesting.stack.length + 1, if_pos hname, ?_⟩
      rcases hkey with hkey | hkey
      · cases hkey
        exact Nat.le_refl _
      · exact Nat.le_succ_of_le (depth_of_mem_openKeys hkey).2
    · rcases hkey with hkey | hkey
      · cases hkey
        exact absurd rfl hname
      · obtain ⟨latest, hlatest, hle⟩ := h.run_le depth hkey
        exact ⟨latest, (if_neg hname).trans hlatest, hle⟩

/-- Taking the innermost region off preserves coherence. -/
theorem Coherent.pop {nesting : Nesting} (h : nesting.Coherent) {region : OpenRegion}
    {outer : List OpenRegion} (hstack : nesting.stack = region :: outer) (time : Float) :
    (nesting.pop region outer time).Coherent where
  nodup := h.nodup
  used_of_open := by
    intro key hkey
    apply h.used_of_open key
    rw [hstack, openKeys_cons]
    exact List.mem_cons_of_mem _ hkey
  settled_of_used := by
    intro key hkey hopen
    rw [Nesting.pop]
    by_cases htop : key = (outer.length + 1, region.name)
    · rw [htop, List.lookup_cons_self]
      rfl
    · rw [lookup_cons_of_ne htop]
      apply h.settled_of_used key hkey
      rw [hstack, openKeys_cons, List.mem_cons]
      rintro (heq | hmem)
      · exact htop heq
      · exact hopen hmem
  used_of_settled := by
    intro key hkey
    rw [Nesting.pop] at hkey
    by_cases htop : key = (outer.length + 1, region.name)
    · apply h.used_of_open
      rw [hstack, openKeys_cons, htop]
      exact List.mem_cons_self
    · rw [lookup_cons_of_ne htop] at hkey
      exact h.used_of_settled key hkey
  run_le := by
    intro depth hkey
    apply h.run_le depth
    rw [hstack, openKeys_cons]
    exact List.mem_cons_of_mem _ hkey

theorem mem_used_settle (nesting : Nesting) (key other : RegionKey) (seconds : Float) :
    other ∈ (nesting.settle key seconds).used ↔ other ∈ nesting.used ∨ other = key := by
  rw [settle]
  by_cases h : key ∈ nesting.used
  · rw [if_pos h]
    constructor
    · exact Or.inl
    · rintro (hmem | rfl)
      · exact hmem
      · exact h
  · rw [if_neg h, List.mem_append, List.mem_singleton]

/-- Settling a key that is not open preserves coherence. -/
theorem Coherent.settle {nesting : Nesting} (h : nesting.Coherent) (key : RegionKey)
    (seconds : Float) : (nesting.settle key seconds).Coherent where
  nodup := by
    rw [Nesting.settle]
    by_cases hkey : key ∈ nesting.used
    · rw [if_pos hkey]
      exact h.nodup
    · rw [if_neg hkey]
      exact List.Nodup.append h.nodup (List.nodup_singleton _) (List.disjoint_singleton.2 hkey)
  used_of_open := by
    intro other hother
    rw [mem_used_settle]
    exact Or.inl (h.used_of_open other hother)
  settled_of_used := by
    intro other hother hopen
    rw [mem_used_settle] at hother
    rw [Nesting.settle]
    by_cases hsame : other = key
    · rw [hsame, List.lookup_cons_self]
      rfl
    · rw [lookup_cons_of_ne hsame]
      exact h.settled_of_used other (hother.resolve_right hsame) hopen
  used_of_settled := by
    intro other hother
    rw [mem_used_settle]
    rw [Nesting.settle] at hother
    by_cases hsame : other = key
    · exact Or.inr hsame
    · rw [lookup_cons_of_ne hsame] at hother
      exact Or.inl (h.used_of_settled other hother)
  run_le := h.run_le

/-- An allowed marker preserves coherence. -/
theorem Coherent.follow {nesting : Nesting} (h : nesting.Coherent) {timed : TimedMarker}
    (hallowed : nesting.Allows timed.marker) : (nesting.follow timed).Coherent := by
  obtain ⟨marker, time⟩ := timed
  cases marker with
  | before name => exact h.enter hallowed time
  | after name =>
    obtain ⟨region, outer, hstack, -⟩ := hallowed
    rw [Nesting.follow_after, leave_eq hstack]
    split
    · exact (h.pop hstack time).settle _ _
    · exact h.pop hstack time

/-- A well nested run of markers leads to a coherent nesting. -/
theorem coherent_after {markers : List TimedMarker} (h : WellNested markers) :
    (after markers).Coherent := by
  induction markers using List.reverseRecOn with
  | nil => exact coherent_start
  | append_singleton markers timed ih =>
    obtain ⟨hmarkers, hallowed⟩ := (wellNested_concat markers timed).1 h
    rw [after_concat]
    exact (ih hmarkers).follow hallowed

/-- A key has a duration exactly if it is used and its region is not open. -/
theorem Coherent.isSome_seconds?_iff {nesting : Nesting} (h : nesting.Coherent) (key : RegionKey) :
    (nesting.seconds? key).isSome ↔ key ∈ nesting.used ∧ key ∉ openKeys nesting.stack := by
  rw [seconds?]
  split
  · next hopen =>
    constructor
    · intro hsome
      cases hsome
    · intro hkey
      exact absurd hopen hkey.2
  · next hopen =>
    constructor
    · intro hsome
      exact ⟨h.used_of_settled key hsome, hopen⟩
    · intro hkey
      exact h.settled_of_used key hkey.1 hopen

/-- A key that is not used has no duration. -/
theorem Coherent.seconds?_eq_none {nesting : Nesting} (h : nesting.Coherent) {key : RegionKey}
    (hunused : key ∉ nesting.used) : nesting.seconds? key = none := by
  rw [← Option.not_isSome_iff_eq_none, h.isSome_seconds?_iff]
  intro hkey
  exact hunused hkey.1

end Nesting

end RunMeter
