import RunMeter.Proofs.Trace.Unaccounted

/-!
# The entries of the regions

A trace may close a region whose name is that of an entry made up by the reader. `ClosesRegion` says
that a trace opens and closes a region with a key, and how long the region takes by its own two
markers. Every closed key is that of such a region, apart from those of unaccounted time
(`isSome_seconds?_iff_closesRegion`), and its duration is the region's own unless the `run` region
above it is closed (`seconds?_of_closesRegion`).

So the keys of the entries are distinct unless a top-level `jvm` is closed beside a top-level
`main`, and each region has one entry with its own duration unless it is named `unaccounted` and a
`run` region right above its depth is closed (`lists_regions_iff`). Both do happen
(`regions_share_reserved_keys`).
-/

set_option autoImplicit false

namespace RunMeter

open RunMeter.Text

/-- What an entry is known by. -/
def PhaseEntry.key (entry : PhaseEntry) : RegionKey := (entry.depth, entry.name)

/-- Among entries with distinct keys, each is the only one with its key. -/
theorem PhaseEntry.filter_key_eq_singleton {entries : List PhaseEntry}
    (hnodup : (entries.map PhaseEntry.key).Nodup) {entry : PhaseEntry} (hmem : entry ∈ entries) :
    entries.filter (fun other => decide (other.key = entry.key)) = [entry] := by
  induction entries with
  | nil => cases hmem
  | cons first rest ih =>
    rw [List.map_cons, List.nodup_cons] at hnodup
    obtain ⟨hfirst, hrest⟩ := hnodup
    rcases List.mem_cons.1 hmem with rfl | hlater
    · have hnone : rest.filter (fun other => decide (other.key = entry.key)) = [] := by
        rw [List.filter_eq_nil_iff]
        intro other hother heq
        rw [← of_decide_eq_true heq] at hfirst
        exact hfirst (List.mem_map_of_mem hother)
      rw [List.filter_cons, if_pos (decide_eq_true rfl), hnone]
    · have hne : first.key ≠ entry.key := by
        intro heq
        rw [heq] at hfirst
        exact hfirst (List.mem_map_of_mem hlater)
      rw [List.filter_cons, decide_eq_false hne]
      exact ih hrest hlater

/-- A run of markers opens a region with a key and closes it after some time. -/
def ClosesRegion (markers : List TimedMarker) (key : RegionKey) (seconds : Float) : Prop :=
  ∃ before start stop rest, ∃ inside : Regions,
    markers = before ++ { marker := .before key.2, time := start } ::
      (inside.markers ++ { marker := .after key.2, time := stop } :: rest) ∧
    key.1 = (Nesting.after before).stack.length + 1 ∧ seconds = stop - start

theorem ClosesRegion.append {markers : List TimedMarker} {key : RegionKey} {seconds : Float}
    (h : ClosesRegion markers key seconds) (more : List TimedMarker) :
    ClosesRegion (markers ++ more) key seconds := by
  obtain ⟨before, start, stop, rest, inside, rfl, hdepth, hseconds⟩ := h
  refine ⟨before, start, stop, rest ++ more, inside, ?_, hdepth, hseconds⟩
  simp only [List.append_assoc, List.cons_append]

namespace Nesting

/-! ## Closed regions and closed keys -/

/-- The marker that closes the innermost region closes a region with its key. -/
theorem closesRegion_of_leave {markers : List TimedMarker} {region : OpenRegion}
    {outer : List OpenRegion} (hstack : (after markers).stack = region :: outer) {stop : Float}
    (h : WellNested (markers ++ [{ marker := .after region.name, time := stop }])) :
    ∃ seconds, ClosesRegion (markers ++ [{ marker := .after region.name, time := stop }])
      (outer.length + 1, region.name) seconds := by
  obtain ⟨outside, start, inside, rfl⟩ := exists_inside_of_close h
  rw [after_inside_stack] at hstack
  obtain ⟨-, rfl⟩ := List.cons.inj hstack
  refine ⟨stop - start, outside, start, stop, [], inside, ?_, rfl, rfl⟩
  rw [List.append_assoc, List.cons_append]

/-- A key that is closed now was closed before, or its region has just been closed, or it is the key
of unaccounted time. -/
theorem isClosed_leave_cases {nesting : Nesting} {region : OpenRegion} {outer : List OpenRegion}
    (hstack : nesting.stack = region :: outer) {time : Float} {key : RegionKey}
    (h : (nesting.leave time).IsClosed key) :
    nesting.IsClosed key ∨ key = (outer.length + 1, region.name) ∨
      key = (outer.length + 2, unaccountedEntry) := by
  obtain ⟨hused, hclosed⟩ := h
  rw [leave_stack hstack] at hclosed
  rw [leave_eq hstack] at hused
  have hused : key ∈ nesting.used ∨ key = (outer.length + 2, unaccountedEntry) := by
    split at hused
    · rw [mem_used_settle] at hused
      exact hused
    · exact Or.inl hused
  rcases hused with hused | hrest
  · by_cases htop : key = (outer.length + 1, region.name)
    · exact Or.inr (Or.inl htop)
    · left
      refine ⟨hused, ?_⟩
      rw [hstack, openKeys_cons, List.mem_cons]
      rintro (heq | hopen)
      · exact htop heq
      · exact hclosed hopen
  · exact Or.inr (Or.inr hrest)

/-- A closed key is that of a region that has been closed, unless it is one of unaccounted time. -/
theorem IsClosed.exists_closesRegion {markers : List TimedMarker} (h : WellNested markers)
    {key : RegionKey} (hkey : (after markers).IsClosed key) (hname : key.2 ≠ unaccountedEntry) :
    ∃ seconds, ClosesRegion markers key seconds := by
  induction markers using List.reverseRecOn with
  | nil => cases hkey.1
  | append_singleton markers timed ih =>
    obtain ⟨hmarkers, hallowed⟩ := (wellNested_concat markers timed).1 h
    have hearlier : (after markers).IsClosed key →
        ∃ seconds, ClosesRegion (markers ++ [timed]) key seconds := by
      intro hbefore
      obtain ⟨seconds, hcloses⟩ := ih hmarkers hbefore
      exact ⟨seconds, hcloses.append [timed]⟩
    rw [after_concat] at hkey
    obtain ⟨marker, time⟩ := timed
    -- The key of a region that is opened is open, so that only a closing can close a new key.
    cases marker with
    | before name =>
      apply hearlier
      obtain ⟨hused, hclosed⟩ := hkey
      rw [follow_before] at hused hclosed
      rw [enter_stack, openKeys_cons, List.mem_cons, not_or] at hclosed
      rcases List.mem_append.1 hused with hused | hnew
      · exact ⟨hused, hclosed.2⟩
      · exact absurd (List.mem_singleton.1 hnew) hclosed.1
    | after name =>
      obtain ⟨region, outer, hstack, rfl⟩ := hallowed
      rw [follow_after] at hkey
      rcases isClosed_leave_cases hstack hkey with hbefore | rfl | rfl
      · exact hearlier hbefore
      · exact closesRegion_of_leave hstack h
      · exact absurd rfl hname

/-- What closing a region settles, whatever its name. -/
theorem lookup_leave {nesting : Nesting} {region : OpenRegion} {outer : List OpenRegion}
    (hstack : nesting.stack = region :: outer) (time : Float) :
    (nesting.leave time).settled.lookup (outer.length + 1, region.name) =
      some (time - region.start) := by
  have hpop : (nesting.pop region outer time).settled.lookup (outer.length + 1, region.name) =
      some (time - region.start) := List.lookup_cons_self
  rw [leave_eq hstack]
  split
  · have hother : ((outer.length + 1, region.name) : RegionKey) ≠
        (outer.length + 2, unaccountedEntry) := by
      intro heq
      rw [Prod.mk.injEq] at heq
      omega
    rw [settle, lookup_cons_of_ne hother]
    exact hpop
  · exact hpop

/-- A region that has been closed has its own duration, unless it is named for unaccounted time and
the `run` region right above its depth is closed in the end. -/
theorem seconds?_of_closesRegion {markers : List TimedMarker} (h : WellNested markers)
    {key : RegionKey} {seconds : Float} (hcloses : ClosesRegion markers key seconds) :
    (after markers).IsClosed key ∧
      ((∀ depth, key = (depth + 1, unaccountedEntry) →
          ¬ (after markers).IsClosed (depth, runRegion)) →
        (after markers).seconds? key = some seconds) := by
  obtain ⟨before, start, stop, rest, inside, rfl, hdepth, rfl⟩ := hcloses
  obtain ⟨depth, name⟩ := key
  obtain rfl : depth = (after before).stack.length + 1 := hdepth
  have hsplit : before ++ { marker := .before name, time := start } ::
      (inside.markers ++ { marker := .after name, time := stop } :: rest) =
      (before ++ { marker := .before name, time := start } :: inside.markers) ++
        [{ marker := .after name, time := stop }] ++ rest := by
    simp only [List.append_assoc, List.cons_append, List.nil_append]
  rw [hsplit] at h ⊢
  have hstack := after_inside_stack before name start inside
  have hclosed := isClosed_leave (coherent_after h.left.left) hstack stop
  have hlookup := lookup_leave hstack stop
  rw [← follow_after _ name, ← after_concat] at hclosed hlookup
  have hend := hclosed.append h
  refine ⟨hend, ?_⟩
  intro hrun
  rw [seconds?, if_neg hend.2, lookup_append h hclosed fun depth hkey => Or.inr (hrun depth hkey)]
  exact hlookup

/-- Apart from unaccounted time, a key has a duration exactly if a region with it was closed. -/
theorem isSome_seconds?_iff_closesRegion {markers : List TimedMarker} (h : WellNested markers)
    {key : RegionKey} (hname : key.2 ≠ unaccountedEntry) :
    ((after markers).seconds? key).isSome ↔ ∃ seconds, ClosesRegion markers key seconds := by
  rw [(coherent_after h).isSome_seconds?_iff]
  constructor
  · intro hkey
    exact IsClosed.exists_closesRegion h hkey hname
  · rintro ⟨seconds, hcloses⟩
    exact (seconds?_of_closesRegion h hcloses).1

/-! ## The keys of the entries -/

/-- No key has the depth of the wall time. -/
theorem one_le_of_mem_used {markers : List TimedMarker} {key : RegionKey}
    (hkey : key ∈ (after markers).used) : 1 ≤ key.1 := by
  induction markers using List.reverseRecOn with
  | nil => cases hkey
  | append_singleton markers timed ih =>
    rw [after_concat] at hkey
    obtain ⟨marker, time⟩ := timed
    cases marker with
    | before name =>
      rcases List.mem_append.1 hkey with hused | hnew
      · exact ih hused
      · rw [List.mem_singleton.1 hnew]
        exact Nat.le_add_left 1 _
    | after name =>
      rw [follow_after] at hkey
      unfold leave at hkey
      split at hkey
      · exact ih hkey
      · split at hkey
        · rw [mem_used_settle] at hkey
          rcases hkey with hused | rfl
          · exact ih hused
          · exact Nat.le_add_left 1 _
        · exact ih hkey

/-- The keys of the entries: the wall time, the launcher if there is an entry for it, and the used
keys that have a duration. -/
theorem map_key_entries (nesting : Nesting) (wall : Duration) :
    (nesting.entries wall).map PhaseEntry.key =
      (0, totalEntry) :: (if (nesting.seconds? (1, mainRegion)).isSome then [(1, launcherEntry)]
        else []) ++ nesting.used.filter fun key => (nesting.seconds? key).isSome := by
  have hused : (nesting.used.filterMap fun key =>
      (nesting.seconds? key).map fun seconds =>
        ({ name := key.2, depth := key.1, seconds } : PhaseEntry)).map PhaseEntry.key =
      nesting.used.filter fun key => (nesting.seconds? key).isSome := by
    rw [List.map_filterMap, ← List.filterMap_eq_filter]
    apply List.filterMap_congr
    intro key _
    rw [Option.guard]
    cases nesting.seconds? key with
    | none => rfl
    | some seconds => rfl
  rw [entries, List.map_append, hused]
  cases nesting.seconds? (1, mainRegion) with
  | none => rfl
  | some seconds => rfl

/-- A `run` region brings in the key of unaccounted time below it, and no launcher without `main`. -/
example :
    let markers : List TimedMarker :=
      [{ marker := .before runRegion, time := 1.0 }, { marker := .after runRegion, time := 3.0 }]
    ((after markers).entries (Duration.ofSeconds 4)).map PhaseEntry.key =
      [(0, totalEntry), (1, runRegion), (2, unaccountedEntry)] := by
  decide +kernel

/-- The keys of the entries are distinct unless both the launcher and a region in its place have an
entry. -/
theorem nodup_map_key_entries_iff {markers : List TimedMarker} (h : WellNested markers)
    (wall : Duration) :
    (((after markers).entries wall).map PhaseEntry.key).Nodup ↔
      ¬ (((after markers).seconds? (1, mainRegion)).isSome ∧
        ((after markers).seconds? (1, launcherEntry)).isSome) := by
  have hcoherent := coherent_after h
  have hused : ((after markers).used.filter fun key =>
      ((after markers).seconds? key).isSome).Nodup := hcoherent.nodup.filter _
  have htotal : ∀ key ∈ (after markers).used.filter (fun key =>
      ((after markers).seconds? key).isSome), key ≠ (0, totalEntry) := by
    rintro key hkey rfl
    exact absurd (one_le_of_mem_used (List.mem_of_mem_filter hkey)) (by decide)
  have hlauncher : (1, launcherEntry) ∈ (after markers).used.filter (fun key =>
      ((after markers).seconds? key).isSome) ↔
      ((after markers).seconds? (1, launcherEntry)).isSome := by
    rw [List.mem_filter, and_iff_right_iff_imp]
    intro hsome
    exact ((hcoherent.isSome_seconds?_iff _).1 hsome).1
  rw [map_key_entries]
  by_cases hmain : ((after markers).seconds? (1, mainRegion)).isSome
  · have hfirst : (0, totalEntry) ∉ (1, launcherEntry) ::
        (after markers).used.filter fun key => ((after markers).seconds? key).isSome := by
      intro hmem
      rcases List.mem_cons.1 hmem with heq | hmem
      · cases heq
      · exact htotal _ hmem rfl
    rw [if_pos hmain, List.cons_append, List.singleton_append, List.nodup_cons, List.nodup_cons,
      hlauncher, and_iff_right hfirst, and_iff_left hused, and_iff_right hmain]
  · have hfirst : (0, totalEntry) ∉
        (after markers).used.filter fun key => ((after markers).seconds? key).isSome := by
      intro hmem
      exact htotal _ hmem rfl
    rw [if_neg hmain, List.singleton_append, List.nodup_cons, and_iff_right hfirst,
      iff_true_intro hused, true_iff]
    exact fun hboth => hmain hboth.1

/-- A key with a duration has an entry, and no other if the keys of the entries are distinct. -/
theorem filter_entries {markers : List TimedMarker} (h : WellNested markers) {wall : Duration}
    (hnodup : (((after markers).entries wall).map PhaseEntry.key).Nodup) {key : RegionKey}
    {seconds : Float} (hkey : (after markers).seconds? key = some seconds) :
    ((after markers).entries wall).filter (fun entry => decide (entry.key = key)) =
      [{ name := key.2, depth := key.1, seconds }] := by
  have hused : key ∈ (after markers).used := by
    by_contra hunused
    rw [(coherent_after h).seconds?_eq_none hunused] at hkey
    cases hkey
  have hmem : { name := key.2, depth := key.1, seconds } ∈ (after markers).entries wall := by
    rw [entries, List.mem_append, List.mem_filterMap]
    refine Or.inr ⟨key, hused, ?_⟩
    rw [hkey, Option.map_some]
  exact PhaseEntry.filter_key_eq_singleton hnodup hmem

end Nesting

/-- When the entries of a trace list its regions. Their keys are distinct exactly if a top-level
`main` and a top-level `jvm` are not both closed. If so, each closed region has one entry, with its
own duration, exactly if every region named `unaccounted` that is closed at the depth below a closed
`run` region happens to take the time that the tally leaves of the run. -/
theorem lists_regions_iff (trace : List Char) (wall : Duration) (entries : List PhaseEntry)
    (hparse : Phases.parse trace wall = .ok entries) :
    let markers := markersOf (lines trace)
    ((entries.map PhaseEntry.key).Nodup ↔
      ¬ ((∃ seconds, ClosesRegion markers (1, mainRegion) seconds) ∧
        ∃ seconds, ClosesRegion markers (1, launcherEntry) seconds)) ∧
    (((entries.map PhaseEntry.key).Nodup ∧ ∀ key seconds, ClosesRegion markers key seconds →
        entries.filter (fun entry => decide (entry.key = key)) =
          [{ name := key.2, depth := key.1, seconds }]) ↔
      ¬ ((∃ seconds, ClosesRegion markers (1, mainRegion) seconds) ∧
        ∃ seconds, ClosesRegion markers (1, launcherEntry) seconds) ∧
      ∀ before start (inside : Regions) stop rest,
        markers = before ++ { marker := .before runRegion, time := start } ::
          (inside.markers ++ { marker := .after runRegion, time := stop } :: rest) →
        let depth := (Nesting.after before).stack.length + 1
        ∀ seconds, ClosesRegion markers (depth + 1, unaccountedEntry) seconds →
          seconds = stop - start - sumSeconds (inside.tally (depth + 1) (depth, [])).2) := by
  intro markers
  obtain ⟨hnested, hentries⟩ := eq_entries_of_parse hparse
  change WellNested markers at hnested
  change entries = (Nesting.after markers).entries wall at hentries
  rw [hentries]
  have hdistinct := Nesting.nodup_map_key_entries_iff hnested wall
  rw [Nesting.isSome_seconds?_iff_closesRegion hnested (by decide),
    Nesting.isSome_seconds?_iff_closesRegion hnested (by decide)] at hdistinct
  -- The duration that stands in the entry below a closed run.
  have hrun : ∀ before start (inside : Regions) stop rest,
      markers = before ++ { marker := .before runRegion, time := start } ::
        (inside.markers ++ { marker := .after runRegion, time := stop } :: rest) →
      (Nesting.after markers).seconds?
          ((Nesting.after before).stack.length + 2, unaccountedEntry) =
        some (stop - start - sumSeconds (inside.tally ((Nesting.after before).stack.length + 2)
          ((Nesting.after before).stack.length + 1, [])).2) := by
    intro before start inside stop rest hsplit
    rw [hsplit] at hnested ⊢
    exact Nesting.seconds?_unaccounted hnested
  refine ⟨hdistinct, ?_⟩
  rw [← hdistinct]
  apply and_congr_right
  intro hnodup
  constructor
  · intro hlists before start inside stop rest hsplit depth seconds hcloses
    have hlisted := hlists _ seconds hcloses
    have hentry := hrun before start inside stop rest hsplit
    rw [Nesting.filter_entries hnested hnodup hentry] at hlisted
    obtain ⟨heq, -⟩ := List.cons.inj hlisted
    exact (congrArg PhaseEntry.seconds heq).symm
  · intro hunaccounted key seconds hcloses
    obtain ⟨-, hown⟩ := Nesting.seconds?_of_closesRegion hnested hcloses
    -- Either nothing but the region itself settles its key, or a closed run settles it as well.
    by_cases hfree : ∀ depth, key = (depth + 1, unaccountedEntry) →
        ¬ (Nesting.after markers).IsClosed (depth, runRegion)
    · exact Nesting.filter_entries hnested hnodup (hown hfree)
    · have hother : runRegion ≠ unaccountedEntry := by decide
      push Not at hfree
      obtain ⟨depth, rfl, hclosed⟩ := hfree
      obtain ⟨-, before, start, stop, rest, inside, hsplit, rfl, -⟩ :=
        Nesting.IsClosed.exists_closesRegion hnested hclosed hother
      rw [hunaccounted before start inside stop rest hsplit seconds hcloses]
      exact Nesting.filter_entries hnested hnodup (hrun before start inside stop rest hsplit)

/-- A `jvm` region that is not at the top and a `run` region inside it: the launcher and the time
that the run leaves unaccounted have entries of their own. -/
theorem lists_regions_beside_reserved :
    let trace := ("before-main 0.5\nbefore-jvm 1.0\nbefore-run 1.5\nafter-run 2.0\n" ++
      "after-jvm 3.0\nafter-main 4.0\n").toList
    ∃ entries, Phases.parse trace (Duration.ofSeconds 5) = .ok entries ∧
      (entries.map PhaseEntry.key).Nodup ∧
      ∀ key seconds, ClosesRegion (markersOf (lines trace)) key seconds →
        entries.filter (fun entry => decide (entry.key = key)) =
          [{ name := key.2, depth := key.1, seconds }] := by
  intro trace
  have hkeys : (Phases.parse trace (Duration.ofSeconds 5)).toOption.map
      (·.map PhaseEntry.key) = some [(0, totalEntry), (1, launcherEntry), (1, mainRegion),
        (2, "jvm"), (3, runRegion), (4, unaccountedEntry)] := by decide +kernel
  have hnames : ∀ timed ∈ markersOf (lines trace),
      timed.marker ≠ .before unaccountedEntry := by decide +kernel
  cases hparse : Phases.parse trace (Duration.ofSeconds 5) with
  | error violation =>
    rw [hparse] at hkeys
    cases hkeys
  | ok entries =>
    rw [hparse] at hkeys
    obtain hkeys : entries.map PhaseEntry.key = _ := Option.some.inj hkeys
    have hnodup : (entries.map PhaseEntry.key).Nodup := by
      rw [hkeys]
      decide
    obtain ⟨hdistinct, hlists⟩ := lists_regions_iff trace (Duration.ofSeconds 5) entries hparse
    refine ⟨entries, rfl, hlists.2 ⟨hdistinct.1 hnodup, ?_⟩⟩
    intro before start inside stop rest hsplit depth seconds hcloses
    obtain ⟨outside, opened, _, _, _, hmarkers, -⟩ := hcloses
    refine absurd rfl (hnames { marker := .before unaccountedEntry, time := opened } ?_)
    rw [hmarkers]
    exact List.mem_append_right _ List.mem_cons_self

/-- A trace with a region named `unaccounted` right inside a `run` region and a top-level `jvm`
beside a top-level `main`. The first has the time that the run leaves over, two and a half seconds,
in place of its own half second, and the second shares its key with the launcher. -/
theorem regions_share_reserved_keys :
    let trace := ("before-run 0.0\nbefore-unaccounted 0.5\nafter-unaccounted 1.0\n" ++
      "after-run 3.0\nbefore-jvm 3.0\nafter-jvm 3.5\nbefore-main 4.0\nafter-main 5.0\n").toList
    (Phases.parse trace (Duration.ofSeconds 6)).toOption.map
        (·.map fun entry => (entry.key, entry.seconds)) =
      some [((0, totalEntry), 6.0), ((1, launcherEntry), 5.0), ((1, runRegion), 3.0),
        ((2, unaccountedEntry), 2.5), ((1, launcherEntry), 0.5), ((1, mainRegion), 1.0)] ∧
    ClosesRegion (markersOf (lines trace)) (2, unaccountedEntry) 0.5 ∧
    ClosesRegion (markersOf (lines trace)) (1, launcherEntry) 0.5 ∧ (2.5 : Float) ≠ 0.5 := by
  intro trace
  have hmarkers : markersOf (lines trace) =
      [{ marker := .before "run", time := 0.0 }, { marker := .before "unaccounted", time := 0.5 },
        { marker := .after "unaccounted", time := 1.0 }, { marker := .after "run", time := 3.0 },
        { marker := .before "jvm", time := 3.0 }, { marker := .after "jvm", time := 3.5 },
        { marker := .before "main", time := 4.0 }, { marker := .after "main", time := 5.0 }] := by
    decide +kernel
  rw [hmarkers]
  refine ⟨by decide +kernel, ?_, ?_, by decide +kernel⟩
  · exact ⟨[{ marker := .before "run", time := 0.0 }], 0.5, 1.0, _, .none, rfl, by decide,
      by decide +kernel⟩
  · exact ⟨[{ marker := .before "run", time := 0.0 },
      { marker := .before "unaccounted", time := 0.5 },
      { marker := .after "unaccounted", time := 1.0 }, { marker := .after "run", time := 3.0 }],
      3.0, 3.5, _, .none, rfl, by decide, by decide +kernel⟩

end RunMeter
