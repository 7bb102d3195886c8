import Mathlib.Data.List.Count
import RunMeter.Probe
import RunMeter.Proofs.Trace.StackReading

/-!
# Whole traces

A trace follows the rules if the times of its timed lines can be read and its markers are well nested.
Then, and only then, it is read to its end, and the state it leads to is that of its nesting
(`readLines_start`). The entries of a nesting are the wall time, the time outside a closed top-level
`main`, and one entry for each used key whose region is not open; `parse_eq_entries` puts them beside
what reading a trace returns.
-/

set_option autoImplicit false

namespace RunMeter

open RunMeter.Text

/-- All times can be read and the markers are well nested. -/
def FollowsRules (lines : List (List Char)) : Prop :=
  (∀ line ∈ lines, TimeReadable line) ∧ WellNested (markersOf lines)

theorem FollowsRules.nil : FollowsRules [] := by
  constructor
  · intro line h
    cases h
  · exact WellNested.nil

/-- One more line follows the rules if it is allowed by the lines before it. -/
theorem followsRules_concat (lines : List (List Char)) (line : List Char) :
    FollowsRules (lines ++ [line]) ↔
      FollowsRules lines ∧ (Nesting.after (markersOf lines)).AllowsLine line := by
  unfold FollowsRules Nesting.AllowsLine
  rw [List.forall_mem_append, List.forall_mem_singleton, markersOf_concat]
  cases TimedMarker.ofLine? line with
  | none =>
    rw [Option.toList_none, List.append_nil]
    constructor
    · rintro ⟨⟨hlines, hline⟩, hnested⟩
      refine ⟨⟨hlines, hnested⟩, hline, ?_⟩
      intro timed h
      cases h
    · rintro ⟨⟨hlines, hnested⟩, hline, -⟩
      exact ⟨⟨hlines, hline⟩, hnested⟩
  | some timed =>
    rw [Option.toList_some, wellNested_concat]
    constructor
    · rintro ⟨⟨hlines, hline⟩, hnested, hallowed⟩
      refine ⟨⟨hlines, hnested⟩, hline, ?_⟩
      intro other h
      cases h
      exact hallowed
    · rintro ⟨⟨hlines, hnested⟩, hline, hallowed⟩
      exact ⟨⟨hlines, hline⟩, hnested, hallowed timed rfl⟩

theorem after_markersOf_concat (lines : List (List Char)) (line : List Char) :
    Nesting.after (markersOf (lines ++ [line])) =
      (Nesting.after (markersOf lines)).followLine line := by
  rw [markersOf_concat, Nesting.after_append, Nesting.followLine]
  cases TimedMarker.ofLine? line with
  | none => rfl
  | some timed => rfl

namespace PhaseState

/-- Lines behind others are read from the state that these lead to. -/
theorem readLines_append (state : PhaseState) (first second : List (List Char)) :
    state.readLines (first ++ second) =
      match state.readLines first with
      | .error violation => .error violation
      | .ok next => next.readLines second := by
  induction first generalizing state with
  | nil => rfl
  | cons line first ih =>
    rw [List.cons_append, readLines, readLines]
    cases state.readLine line with
    | error violation => rfl
    | ok next => exact ih next

theorem readLines_concat (state : PhaseState) (lines : List (List Char)) (line : List Char) :
    state.readLines (lines ++ [line]) =
      match state.readLines lines with
      | .error violation => .error violation
      | .ok next => next.readLine line := by
  rw [readLines_append]
  cases state.readLines lines with
  | error violation => rfl
  | ok next =>
    simp only [readLines]
    cases next.readLine line with
    | error violation => rfl
    | ok last => rfl

/-- Lines that follow the rules lead to the state of their nesting. -/
theorem readLines_start {lines : List (List Char)} (h : FollowsRules lines) :
    readLines {} lines = .ok (Nesting.after (markersOf lines)).toState := by
  induction lines using List.reverseRecOn with
  | nil => rfl
  | append_singleton lines line ih =>
    obtain ⟨hlines, hline⟩ := (followsRules_concat lines line).1 h
    rw [readLines_concat, ih hlines, after_markersOf_concat]
    exact Nesting.readLine_toState (Nesting.coherent_after hlines.2) hline

/-- Lines that break a rule end in a violation. -/
theorem readLines_start_violation {lines : List (List Char)} (h : ¬ FollowsRules lines) :
    ∃ violation, readLines {} lines = .error violation := by
  induction lines using List.reverseRecOn with
  | nil => exact absurd FollowsRules.nil h
  | append_singleton lines line ih =>
    rw [readLines_concat]
    by_cases hlines : FollowsRules lines
    · rw [readLines_start hlines]
      apply Nesting.readLine_toState_violation
      intro hline
      exact h ((followsRules_concat lines line).2 ⟨hlines, hline⟩)
    · obtain ⟨violation, hviolation⟩ := ih hlines
      rw [hviolation]
      exact ⟨violation, rfl⟩

/-- A state that reading comes to is the state of a nesting. -/
theorem eq_toState_of_readLines {lines : List (List Char)} {state : PhaseState}
    (h : readLines {} lines = .ok state) :
    FollowsRules lines ∧ state = (Nesting.after (markersOf lines)).toState := by
  by_cases hrules : FollowsRules lines
  · rw [readLines_start hrules] at h
    cases h
    exact ⟨hrules, rfl⟩
  · obtain ⟨violation, hviolation⟩ := readLines_start_violation hrules
    rw [hviolation] at h
    cases h

end PhaseState

/-! ## Open slots -/

/-- Whether a slot belongs to a region that is open at a depth. -/
def Slot.isOpenAt (depth : Nat) (slot : Slot) : Bool :=
  match slot.state with
  | .opened _ => slot.depth == depth
  | .closed _ => false

namespace Nesting

theorem isOpenAt_slotOf (nesting : Nesting) (depth : Nat) (key : RegionKey) :
    (PhaseTable.slotOf key (nesting.slotState key)).isOpenAt depth =
      (key.1 == depth && decide (key ∈ openKeys nesting.stack)) := by
  by_cases h : key ∈ openKeys nesting.stack
  · obtain ⟨start, hstart⟩ := slotState_of_mem h
    rw [decide_eq_true h, Bool.and_true, hstart]
    rfl
  · rw [decide_eq_false h, Bool.and_false, slotState_of_notMem h]
    rfl

/-- The table of a nesting has one open slot at each depth up to the height of the stack. -/
theorem Coherent.countP_isOpenAt {nesting : Nesting} (h : nesting.Coherent) (depth : Nat) :
    nesting.toState.table.countP (Slot.isOpenAt depth) =
      if 1 ≤ depth ∧ depth ≤ nesting.toState.depth then 1 else 0 := by
  have hperm : (nesting.used.filter fun key => decide (key ∈ openKeys nesting.stack)).Perm
      (openKeys nesting.stack) := by
    rw [List.perm_ext_iff_of_nodup (h.nodup.filter _) (nodup_openKeys nesting.stack)]
    intro key
    rw [List.mem_filter, decide_eq_true_iff]
    constructor
    · exact And.right
    · intro hopen
      exact ⟨h.used_of_open key hopen, hopen⟩
  have hslots : Slot.isOpenAt depth ∘ (fun key => PhaseTable.slotOf key (nesting.slotState key)) =
      fun key => key.1 == depth && decide (key ∈ openKeys nesting.stack) := by
    funext key
    exact isOpenAt_slotOf nesting depth key
  calc nesting.toState.table.countP (Slot.isOpenAt depth)
      = nesting.used.countP
          (fun key => key.1 == depth && decide (key ∈ openKeys nesting.stack)) := by
        rw [toState, PhaseTable.ofKeys, List.countP_map, hslots]
    _ = (nesting.used.filter fun key => decide (key ∈ openKeys nesting.stack)).countP
          (fun key => key.1 == depth) := by rw [List.countP_filter]
    _ = (openKeys nesting.stack).countP (fun key => key.1 == depth) := hperm.countP_eq _
    _ = if 1 ≤ depth ∧ depth ≤ nesting.toState.depth then 1 else 0 :=
        countP_openKeys nesting.stack depth

/-- Closing a region takes one off the counter, which is not zero then. -/
theorem depth_eq_of_leave {nesting : Nesting} (h : nesting.Coherent) {name : String} {time : Float}
    {next : PhaseState} (hleave : nesting.toState.leave name time = .ok next) :
    nesting.toState.depth = next.depth + 1 := by
  by_cases hopen : (nesting.stack.length, name) ∈ openKeys nesting.stack
  · obtain ⟨region, outer, hstack, rfl⟩ := allows_after_of_mem hopen
    rw [leave_toState h hstack] at hleave
    cases hleave
    simp only [toState, leave, hstack, List.length_cons]
    split
    · rfl
    · rfl
  · rw [leave_toState_unmatched hopen] at hleave
    cases hleave

/-! ## Entries -/

/-- The entries of a nesting, given the wall time. -/
def entries (nesting : Nesting) (wall : Duration) : List PhaseEntry :=
  let launcher := (nesting.seconds? (1, mainRegion)).map fun seconds =>
    { name := launcherEntry, depth := 1, seconds := wall.toSeconds - seconds }
  { name := totalEntry, depth := 0, seconds := wall.toSeconds } :: launcher.toList ++
    nesting.used.filterMap fun key =>
      (nesting.seconds? key).map fun seconds => { name := key.2, depth := key.1, seconds }

/-- The duration of a used key is that of its slot, if that is closed. -/
theorem Coherent.seconds?_eq {nesting : Nesting} (h : nesting.Coherent) {key : RegionKey}
    (hused : key ∈ nesting.used) :
    nesting.seconds? key =
      match nesting.slotState key with
      | .closed seconds => some seconds
      | .opened _ => none := by
  by_cases hopen : key ∈ openKeys nesting.stack
  · obtain ⟨start, hstart⟩ := slotState_of_mem hopen
    rw [seconds?, if_pos hopen, hstart]
  · obtain ⟨seconds, hseconds⟩ := Option.isSome_iff_exists.1 (h.settled_of_used key hused hopen)
    rw [slotState_of_notMem hopen, seconds?, if_neg hopen, hseconds]
    rfl

theorem Coherent.closed?_toState {nesting : Nesting} (h : nesting.Coherent) (depth : Nat)
    (name : String) :
    nesting.toState.table.closed? depth name = nesting.seconds? (depth, name) := by
  rw [toState, PhaseTable.closed?, PhaseTable.slot?_ofKeys]
  by_cases hused : (depth, name) ∈ nesting.used
  · rw [if_pos hused, h.seconds?_eq hused]
    cases hstate : nesting.slotState (depth, name) with
    | opened start => rfl
    | closed seconds => rfl
  · rw [if_neg hused, h.seconds?_eq_none hused]

/-- The entries of the state of a nesting are those of the nesting. -/
theorem Coherent.ofState_toState {nesting : Nesting} (h : nesting.Coherent) (wall : Duration) :
    Phases.ofState nesting.toState wall = nesting.entries wall := by
  have hentries : nesting.toState.table.entries = nesting.used.filterMap fun key =>
      (nesting.seconds? key).map fun seconds => { name := key.2, depth := key.1, seconds } := by
    rw [toState, PhaseTable.entries, PhaseTable.ofKeys, List.filterMap_map]
    apply List.filterMap_congr
    intro key hused
    rw [h.seconds?_eq hused]
    cases hstate : nesting.slotState key with
    | opened start => simp only [Function.comp, PhaseTable.slotOf, hstate, Option.map_none]
    | closed seconds => simp only [Function.comp, PhaseTable.slotOf, hstate, Option.map_some]
  rw [Phases.ofState, entries, hentries, h.closed?_toState]
  cases nesting.seconds? (1, mainRegion) with
  | none => rfl
  | some seconds => rfl

end Nesting

/-- A trace that follows the rules has the entries of its nesting. -/
theorem parse_of_followsRules {trace : List Char} (h : FollowsRules (lines trace))
    (wall : Duration) :
    Phases.parse trace wall = .ok ((Nesting.after (markersOf (lines trace))).entries wall) := by
  rw [Phases.parse, PhaseState.readLines_start h]
  simp only [(Nesting.coherent_after h.2).ofState_toState]

/-- Any other trace is a violation, which is a failure of the protocol. -/
theorem parse_of_not_followsRules {trace : List Char} (h : ¬ FollowsRules (lines trace))
    (wall : Duration) :
    ∃ violation, Phases.parse trace wall = .error violation ∧
      (Probe.broken violation).kind = .protocol := by
  obtain ⟨violation, hviolation⟩ := PhaseState.readLines_start_violation h
  refine ⟨violation, ?_, rfl⟩
  rw [Phases.parse, hviolation]

/-- The entries that are read off a trace are those of its nesting. -/
theorem eq_entries_of_parse {trace : List Char} {wall : Duration} {entries : List PhaseEntry}
    (hparse : Phases.parse trace wall = .ok entries) :
    WellNested (markersOf (lines trace)) ∧
      entries = (Nesting.after (markersOf (lines trace))).entries wall := by
  by_cases hrules : FollowsRules (lines trace)
  · rw [parse_of_followsRules hrules] at hparse
    exact ⟨hrules.2, (Except.ok.inj hparse).symm⟩
  · obtain ⟨violation, hviolation, -⟩ := parse_of_not_followsRules hrules wall
    cases hviolation.symm.trans hparse

/-- What reading a trace returns. A line counts if it is the text of a marker, a blank and a time that
can be read. If all times can be read and the markers are well nested, the entries are those of the
nesting that the markers lead to, with one entry for each used key whose region is not open; otherwise
the trace is a violation, which is a failure of the protocol. At every point that reading comes to,
exactly one slot is open at each depth up to the counter and none is open deeper, and a region is only
closed while the counter is not zero. -/
theorem parse_eq_entries (trace : List Char) (wall : Duration) :
    (∀ line ∈ lines trace, ∀ timed, TimedMarker.ofLine? line = some timed ↔
      ∃ time, IsTimed line timed.marker.text time ∧
        Binary64.readPlain time = .ok timed.time) ∧
    ((∀ line ∈ lines trace, TimeReadable line) ∧ WellNested (markersOf (lines trace)) →
      Phases.parse trace wall =
          .ok ((Nesting.after (markersOf (lines trace))).entries wall) ∧
        ∀ key, ((Nesting.after (markersOf (lines trace))).seconds? key).isSome ↔
          key ∈ (Nesting.after (markersOf (lines trace))).used ∧
            key ∉ openKeys (Nesting.after (markersOf (lines trace))).stack) ∧
    (¬ ((∀ line ∈ lines trace, TimeReadable line) ∧ WellNested (markersOf (lines trace))) →
      ∃ violation, Phases.parse trace wall = .error violation ∧
        (Probe.broken violation).kind = .protocol) ∧
    (∀ read rest state, lines trace = read ++ rest → PhaseState.readLines {} read = .ok state →
      (∀ depth, state.table.countP (Slot.isOpenAt depth) =
        if 1 ≤ depth ∧ depth ≤ state.depth then 1 else 0) ∧
      ∀ name time next, state.leave name time = .ok next → state.depth = next.depth + 1) := by
  refine ⟨?_, ?_, ?_, ?_⟩
  · intro line _ timed
    exact TimedMarker.ofLine?_eq_some_iff line timed
  · intro hrules
    exact ⟨parse_of_followsRules hrules wall,
      (Nesting.coherent_after hrules.2).isSome_seconds?_iff⟩
  · intro hbroken
    exact parse_of_not_followsRules hbroken wall
  · intro read rest state _ hread
    obtain ⟨hrules, rfl⟩ := PhaseState.eq_toState_of_readLines hread
    have hcoherent := Nesting.coherent_after hrules.2
    constructor
    · exact hcoherent.countP_isOpenAt
    · intro name time next hleave
      exact Nesting.depth_eq_of_leave hcoherent hleave

/-- A trace that follows the rules: regions inside one another, and one that is still open and has a
name that occurs at another depth. That one has no entry. The keys of the others come after the total
and the launcher, in the order of their first use. -/
theorem nested_regions_follow_rules :
    let trace := ("before-main 0.5\nbefore-run 0.6\nloaded 1.0\nafter-run 1.6\n" ++
      "after-main 1.7\nbefore-run 1.8\n").toList
    let nesting := Nesting.after (markersOf (lines trace))
    let wall := Duration.ofSeconds 2
    ((∀ line ∈ lines trace, TimeReadable line) ∧ WellNested (markersOf (lines trace))) ∧
      Phases.parse trace wall = .ok (nesting.entries wall) ∧
      (nesting.entries wall).map (fun entry => (entry.name, entry.depth)) =
        [("total", 0), ("jvm", 1), ("main", 1), ("run", 2), ("unaccounted", 3)] ∧
      (1, "run") ∈ nesting.used ∧ (1, "run") ∈ openKeys nesting.stack := by
  intro trace nesting wall
  obtain ⟨-, hentries, hviolation, -⟩ := parse_eq_entries trace wall
  have hrules : FollowsRules (lines trace) := by
    by_contra hbroken
    obtain ⟨violation, hparse, -⟩ := hviolation hbroken
    have hok : (Phases.parse trace wall).isOk = true := by decide +kernel
    rw [hparse] at hok
    cases hok
  refine ⟨hrules, (hentries hrules).1, ?_, ?_⟩
  · decide +kernel
  · decide +kernel

end RunMeter
