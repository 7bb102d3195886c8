import Mathlib.Data.List.Forall2
import Mathlib.Data.List.Perm.Basic
import RunMeter.Probe
import RunMeter.Proofs.Series.Grouping
import RunMeter.Report.Document

/-!
# The names of series in a document

In the document of a metric every series is a member of one object, under its own name or, where a
name stands at several depths, under the name with its depth. Such a name cannot be mistaken for one
of its kind (`name_at_depth_inj`), but another series may have it for its plain name. Then the object
keeps one member for both, in the place of the first and with the samples of the last
(`Json.ofMembers_spec`). `MetricKey.Overlap` is this clash, said of the keys;
`MetricsReport.results_list_series_iff` says that nothing else makes the document lose a series, and
`MetricsReport.results_drop_series` is a trace for which it does.
-/

set_option autoImplicit false

namespace RunMeter

/-- A list from which nothing is struck has no repetitions. -/
theorem nodup_of_length_le_eraseDups {α : Type} [BEq α] [LawfulBEq α] {keys : List α}
    (h : keys.length ≤ keys.eraseDups.length) : keys.Nodup := by
  have hsub : keys.eraseDups.Subperm keys :=
    List.subperm_of_subset (nodup_eraseDups keys) fun _ => List.mem_eraseDups.1
  exact (hsub.perm_of_length_le h).nodup_iff.1 (nodup_eraseDups keys)

/-! ## Objects -/

namespace Json

theorem setMember_of_notMem {key : String} {members : List (String × Json)}
    (h : key ∉ members.map Prod.fst) (value : Json) :
    setMember key value members = members ++ [(key, value)] := by
  induction members with
  | nil => rfl
  | cons first rest ih =>
    rw [List.map_cons, List.mem_cons, not_or] at h
    rw [setMember, if_neg (Ne.symm h.1), ih h.2]
    rfl

theorem map_fst_setMember_of_mem {key : String} {members : List (String × Json)}
    (h : key ∈ members.map Prod.fst) (value : Json) :
    (setMember key value members).map Prod.fst = members.map Prod.fst := by
  induction members with
  | nil => cases h
  | cons first rest ih =>
    rw [setMember]
    split
    · rfl
    · next hne =>
      have hrest := List.mem_of_ne_of_mem (Ne.symm hne) h
      rw [List.map_cons, ih hrest, List.map_cons]

theorem lookup_setMember (key name : String) (value : Json) (members : List (String × Json)) :
    (setMember key value members).lookup name =
      if key = name then some value else members.lookup name := by
  induction members with
  | nil =>
    rw [setMember, List.lookup_cons, List.lookup_nil]
    by_cases h : key = name
    · rw [if_pos h, beq_iff_eq.2 h.symm]
    · rw [if_neg h, beq_eq_false_iff_ne.2 (Ne.symm h)]
  | cons first rest ih =>
    obtain ⟨k, v⟩ := first
    rw [setMember]
    split
    · next hk =>
      subst hk
      rw [List.lookup_cons, List.lookup_cons]
      by_cases h : k = name
      · rw [if_pos h, beq_iff_eq.2 h.symm]
      · rw [if_neg h, beq_eq_false_iff_ne.2 (Ne.symm h)]
    · next hk =>
      rw [List.lookup_cons, ih, List.lookup_cons]
      by_cases h : key = name
      · subst h
        rw [if_pos rfl, if_pos rfl, beq_eq_false_iff_ne.2 (Ne.symm hk)]
      · rw [if_neg h, if_neg h]

/-- The object of a row of members has each of their names once, at its first place, and under it the
value of the last member with that name. -/
theorem ofMembers_spec {α : Type} (name : α → String) (value : α → Json) (rows : List α) :
    ∃ members, ofMembers (rows.map fun row => (name row, value row)) = .object members ∧
      members.map Prod.fst = (rows.map name).eraseDups ∧
      ∀ key, members.lookup key = (rows.reverse.find? fun row => name row == key).map value := by
  refine ⟨_, rfl, ?_⟩
  induction rows using List.reverseRecOn with
  | nil => exact ⟨rfl, fun _ => rfl⟩
  | append_singleton rows row ih =>
    obtain ⟨hnames, hlookup⟩ := ih
    rw [List.map_append, List.map_singleton, List.foldl_append, List.foldl_cons, List.foldl_nil]
    dsimp only
    constructor
    · rw [List.map_append, List.map_singleton]
      by_cases h : name row ∈ rows.map name
      · rw [map_fst_setMember_of_mem, hnames, eraseDups_concat_of_mem h]
        rw [hnames, List.mem_eraseDups]
        exact h
      · rw [setMember_of_notMem, List.map_append, hnames, eraseDups_concat_of_notMem h]
        · rfl
        · rw [hnames, List.mem_eraseDups]
          exact h
    · intro key
      rw [lookup_setMember, hlookup, List.reverse_append, List.reverse_singleton,
        List.singleton_append, List.find?_cons]
      by_cases h : name row = key
      · rw [if_pos h, beq_iff_eq.2 h]
        rfl
      · rw [if_neg h, beq_eq_false_iff_ne.2 h]

/-- Members with distinct names make up the object as they are. -/
theorem ofMembers_of_nodup {members : List (String × Json)}
    (h : (members.map Prod.fst).Nodup) : ofMembers members = .object members := by
  rw [ofMembers]
  congr 1
  induction members using List.reverseRecOn with
  | nil => rfl
  | append_singleton members member ih =>
    rw [List.map_append, List.map_singleton, List.nodup_append] at h
    obtain ⟨hmembers, -, hdisjoint⟩ := h
    have hnew : member.1 ∉ members.map Prod.fst := fun hmem =>
      hdisjoint member.1 hmem member.1 (List.mem_singleton.2 rfl) rfl
    rw [List.foldl_append, ih hmembers]
    exact setMember_of_notMem hnew member.2

end Json

/-! ## Names -/

/-- The last occurrence of an element cuts a list in two. -/
theorem append_cons_inj_of_notMem_right {α : Type} {x : α} {before before' after after' : List α}
    (h : x ∉ after) (h' : x ∉ after') :
    before ++ x :: after = before' ++ x :: after' ↔ before = before' ∧ after = after' := by
  constructor
  · intro heq
    rcases List.append_eq_append_iff.1 heq with
      ⟨between, hbefore, hafter⟩ | ⟨between, hbefore, hafter⟩
    · cases between with
      | nil => exact ⟨by rw [hbefore, List.append_nil], (List.cons.inj hafter).2⟩
      | cons y between =>
        rw [(List.cons.inj hafter).2] at h
        exact absurd (List.mem_append_right _ List.mem_cons_self) h
    · cases between with
      | nil => exact ⟨by rw [hbefore, List.append_nil], (List.cons.inj hafter).2.symm⟩
      | cons y between =>
        rw [(List.cons.inj hafter).2] at h'
        exact absurd (List.mem_append_right _ List.mem_cons_self) h'
  · rintro ⟨rfl, rfl⟩
    rfl

/-- A name with a depth determines both, since a depth is written without the sign between them. -/
theorem name_at_depth_inj {name other : String} {depth otherDepth : Nat} :
    name ++ "@" ++ toString depth = other ++ "@" ++ toString otherDepth ↔
      name = other ∧ depth = otherDepth := by
  have htext : ∀ (name : String) (depth : Nat), (name ++ "@" ++ toString depth).toList =
      name.toList ++ '@' :: Nat.toDigits 10 depth := by
    intro name depth
    rw [String.toList_append, String.toList_append, Nat.toString_eq_repr, Nat.toList_repr,
      List.append_assoc]
    rfl
  have hsign : ∀ depth : Nat, '@' ∉ Nat.toDigits 10 depth := by
    intro depth hmem
    have hdigit := Nat.isDigit_of_mem_toDigits (by decide) (by decide) hmem
    revert hdigit
    decide
  rw [← String.toList_inj, htext, htext,
    append_cons_inj_of_notMem_right (hsign depth) (hsign otherDepth), String.toList_inj]
  apply and_congr_right
  intro _
  constructor
  · intro hdigits
    rw [← Nat.ofDigitChars_ten_toDigits (n := depth), hdigits, Nat.ofDigitChars_ten_toDigits]
  · rintro rfl
    rfl

namespace MetricKey

/-- Whether a name stands at several depths. -/
def AtSeveralDepths (keys : List MetricKey) (name : String) : Prop :=
  ∃ key ∈ keys, ∃ other ∈ keys, key.name = name ∧ other.name = name ∧ key.depth ≠ other.depth

/-- Whether the name with a depth of one key is the plain name of another. -/
def Overlap (keys : List MetricKey) : Prop :=
  ∃ key ∈ keys, ∃ other ∈ keys, AtSeveralDepths keys key.name ∧
    ¬ AtSeveralDepths keys other.name ∧ other.name = key.name ++ "@" ++ toString key.depth

theorem overlap_congr {keys others : List MetricKey} (h : ∀ key, key ∈ keys ↔ key ∈ others) :
    Overlap keys ↔ Overlap others := by
  simp only [Overlap, AtSeveralDepths, h]

/-- Distinct keys share a name just if it stands at several depths. -/
theorem one_lt_countP_iff {keys : List MetricKey} (hnodup : keys.Nodup) (name : String) :
    1 < (keys.countP fun key => key.name == name) ↔ AtSeveralDepths keys name := by
  have hmem : ∀ key, key ∈ (keys.filter fun key => key.name == name) ↔
      key ∈ keys ∧ key.name = name := by
    intro key
    rw [List.mem_filter, beq_iff_eq]
  have hfilter := hnodup.filter fun key => key.name == name
  have hshared : AtSeveralDepths keys name ↔
      ∃ key ∈ (keys.filter fun key => key.name == name),
        ∃ other ∈ (keys.filter fun key => key.name == name), key.depth ≠ other.depth := by
    simp only [hmem]
    constructor
    · rintro ⟨key, hkey, other, hother, hname, hname', hne⟩
      exact ⟨key, ⟨hkey, hname⟩, other, ⟨hother, hname'⟩, hne⟩
    · rintro ⟨key, ⟨hkey, hname⟩, other, ⟨hother, hname'⟩, hne⟩
      exact ⟨key, hkey, other, hother, hname, hname', hne⟩
  rw [List.countP_eq_length_filter, hshared]
  generalize (keys.filter fun key => key.name == name) = found at hmem hfilter
  rcases found with _ | ⟨first, _ | ⟨second, rest⟩⟩
  · simp
  · simp
  · have hne : first ≠ second := by
      intro heq
      exact (List.nodup_cons.1 hfilter).1 (heq ▸ List.mem_cons_self)
    have hfirst := (hmem first).1 List.mem_cons_self
    have hsecond := (hmem second).1 (List.mem_cons_of_mem _ List.mem_cons_self)
    have hdepth : first.depth ≠ second.depth := by
      intro heq
      exact hne (by cases first; cases second; simp_all)
    refine iff_of_true (Nat.succ_lt_succ (Nat.succ_pos _)) ?_
    exact ⟨first, List.mem_cons_self, second, List.mem_cons_of_mem _ List.mem_cons_self, hdepth⟩

end MetricKey

/-! ## Entries -/

/-- The key of the series that an entry is made of. -/
def ReportEntry.key (entry : ReportEntry) : MetricKey := { name := entry.name, depth := entry.depth }

/-- A series with values has an entry, with its key and its samples. -/
theorem ReportEntry.exists_ofSeries? (unit : Measure) {series : Series} (h : series.values ≠ []) :
    ∃ entry, ofSeries? unit series = some entry ∧ entry.key = series.key ∧
      entry.samples = series.values.map unit.document := by
  obtain ⟨key, values⟩ := series
  cases values with
  | nil => exact absurd rfl h
  | cons first rest => exact ⟨_, rfl, rfl, rfl⟩

namespace MetricsReport

/-- An entry has the key and the samples of a series. -/
def IsEntryOf (unit : Measure) (one : Series) (entry : ReportEntry) : Prop :=
  entry.key = one.key ∧ entry.samples = one.values.map unit.document

/-- Series with values have one entry each, in their order. -/
theorem forall₂_entries (unit : Measure) {series : List Series}
    (h : ∀ one ∈ series, one.values ≠ []) :
    List.Forall₂ (IsEntryOf unit) series (series.filterMap (ReportEntry.ofSeries? unit)) := by
  induction series with
  | nil => exact List.Forall₂.nil
  | cons first rest ih =>
    rw [List.forall_mem_cons] at h
    obtain ⟨entry, hentry, hspec⟩ := ReportEntry.exists_ofSeries? unit h.1
    rw [List.filterMap_cons_some hentry]
    exact List.Forall₂.cons hspec (ih h.2)

theorem map_key_of_forall₂ {unit : Measure} {series : List Series} {entries : List ReportEntry}
    (h : List.Forall₂ (IsEntryOf unit) series entries) :
    entries.map ReportEntry.key = series.map Series.key := by
  induction h with
  | nil => rfl
  | cons hentry _ ih => rw [List.map_cons, List.map_cons, hentry.1, ih]

/-- Under distinct keys, an entry has its depth in its name just if its name stands at several. -/
theorem memberName_of_nodup {entries : List ReportEntry}
    (hnodup : (entries.map ReportEntry.key).Nodup) (entry : ReportEntry) :
    (MetricKey.AtSeveralDepths (entries.map ReportEntry.key) entry.name →
      memberName entries entry = entry.name ++ "@" ++ toString entry.depth) ∧
    (¬ MetricKey.AtSeveralDepths (entries.map ReportEntry.key) entry.name →
      memberName entries entry = entry.name) := by
  rw [← MetricKey.one_lt_countP_iff hnodup, List.countP_map]
  exact ⟨fun h => if_pos h, fun h => if_neg h⟩

/-- Entries with distinct keys have distinct names in the document unless two of them overlap. -/
theorem nodup_map_memberName_iff {entries : List ReportEntry}
    (hnodup : (entries.map ReportEntry.key).Nodup) :
    (entries.map (memberName entries)).Nodup ↔
      ¬ MetricKey.Overlap (entries.map ReportEntry.key) := by
  have hname := memberName_of_nodup hnodup
  rw [List.nodup_map_iff_inj_on hnodup.of_map]
  constructor
  · rintro hinj ⟨key, hkey, other, hother, hseveral, hplain, heq⟩
    obtain ⟨entry, hentry, rfl⟩ := List.mem_map.1 hkey
    obtain ⟨plain, hmem, rfl⟩ := List.mem_map.1 hother
    have hsame : memberName entries entry = memberName entries plain := by
      rw [(hname entry).1 hseveral, (hname plain).2 hplain]
      exact heq.symm
    rw [hinj entry hentry plain hmem hsame] at hseveral
    exact hplain hseveral
  · intro hno entry hentry other hother heq
    apply List.inj_on_of_nodup_map hnodup hentry hother
    have hkey := List.mem_map_of_mem (f := ReportEntry.key) hentry
    have hkey' := List.mem_map_of_mem (f := ReportEntry.key) hother
    by_cases h : MetricKey.AtSeveralDepths (entries.map ReportEntry.key) entry.name
    · rw [(hname entry).1 h] at heq
      by_cases h' : MetricKey.AtSeveralDepths (entries.map ReportEntry.key) other.name
      · rw [(hname other).1 h', name_at_depth_inj] at heq
        rw [ReportEntry.key, heq.1, heq.2]
        rfl
      · rw [(hname other).2 h'] at heq
        exact absurd ⟨_, hkey, _, hkey', h, h', heq.symm⟩ hno
    · rw [(hname entry).2 h] at heq
      by_cases h' : MetricKey.AtSeveralDepths (entries.map ReportEntry.key) other.name
      · rw [(hname other).1 h'] at heq
        exact absurd ⟨_, hkey', _, hkey, h', h, heq⟩ hno
      · rw [(hname other).2 h'] at heq
        have hdepth : entry.depth = other.depth := by
          by_contra hne
          exact h ⟨_, hkey, _, hkey', rfl, heq.symm, hne⟩
        rw [ReportEntry.key, heq, hdepth]
        rfl

/-- Whether an object has one member for each series, in their order, with distinct names and with
the samples of the series. -/
def ListsSeries (unit : Measure) (series : List Series) (results : Json) : Prop :=
  ∃ members, results = .object members ∧ (members.map Prod.fst).Nodup ∧
    List.Forall₂ (fun one member => member.2.member "samples" =
      .array (one.values.map unit.document)) series members

/-- The object of entries lists their series just if no two of them have one name. -/
theorem listsSeries_ofMembers_iff {unit : Measure} {series : List Series}
    {entries : List ReportEntry} (h : List.Forall₂ (IsEntryOf unit) series entries) :
    ListsSeries unit series
        (.ofMembers (entries.map fun entry => (memberName entries entry, entry.document))) ↔
      (entries.map (memberName entries)).Nodup := by
  constructor
  · rintro ⟨members, hmembers, -, hlisted⟩
    obtain ⟨others, hothers, hnames, -⟩ :=
      Json.ofMembers_spec (memberName entries) ReportEntry.document entries
    cases hmembers.symm.trans hothers
    -- As many members as entries: then no two entries have had the same name.
    have hlength : (entries.map (memberName entries)).length =
        (entries.map (memberName entries)).eraseDups.length := by
      rw [← hnames, List.length_map, List.length_map, ← hlisted.length_eq, h.length_eq]
    exact nodup_of_length_le_eraseDups (Nat.le_of_eq hlength)
  · intro hdistinct
    have hmembers : ((entries.map fun entry =>
        (memberName entries entry, entry.document)).map Prod.fst).Nodup := by
      rw [List.map_map]
      exact hdistinct
    refine ⟨_, Json.ofMembers_of_nodup hmembers, hmembers, ?_⟩
    rw [List.forall₂_map_right_iff]
    refine h.imp ?_
    rintro one entry ⟨-, hsamples⟩
    rw [← hsamples]
    rfl

/-- What the document says of the series after any history of calls on a new set. It has an entry for
each, and a member for each name of an entry, with what the last entry of that name says. So it lists
the series, one by one and with their own samples, unless the name with a depth that is written for one
recorded key is the plain name of another. -/
theorem results_list_series_iff (calls : List SeriesCall) (metric : String) (unit : Measure)
    (command : String) (stamp : RunStamp) :
    let set := (SeriesSet.empty.replay calls).2
    let entries := (ofSeries metric unit set command stamp).entries
    let results := (ofSeries metric unit set command stamp).document.member "results"
    entries.map ReportEntry.key = set.series.map Series.key ∧
    (∃ members, results = .object members ∧
      members.map Prod.fst = (entries.map (memberName entries)).eraseDups ∧
      ∀ name, members.lookup name =
        (entries.reverse.find? fun entry => memberName entries entry == name).map
          ReportEntry.document) ∧
    (ListsSeries unit set.series results ↔
      ¬ MetricKey.Overlap ((SeriesCall.pairs calls).map Prod.fst)) := by
  intro set entries results
  have hgathers := SeriesSet.gathers_empty.replay calls
  have hseries : set.series = Series.grouped (SeriesCall.pairs calls) := hgathers.series
  have hkeys : set.series.map Series.key = ((SeriesCall.pairs calls).map Prod.fst).eraseDups := by
    rw [hseries]
    exact Series.map_key_grouped _
  have hvalues : ∀ one ∈ set.series, one.values ≠ [] := by
    intro one hone hnil
    rw [hseries, Series.mem_grouped] at hone
    rw [hone.2, Series.valuesUnder_eq_nil_iff] at hnil
    exact hnil hone.1
  have hentries : List.Forall₂ (IsEntryOf unit) set.series entries := forall₂_entries unit hvalues
  have hsame := map_key_of_forall₂ hentries
  have hresults : results = .ofMembers (entries.map fun entry =>
      (memberName entries entry, entry.document)) := rfl
  have hnodup : (entries.map ReportEntry.key).Nodup := by
    rw [hsame, hkeys]
    exact nodup_eraseDups _
  have hoverlap : MetricKey.Overlap ((SeriesCall.pairs calls).map Prod.fst) ↔
      MetricKey.Overlap (entries.map ReportEntry.key) := by
    rw [hsame, hkeys]
    exact MetricKey.overlap_congr fun key => List.mem_eraseDups.symm
  rw [hresults, hoverlap, ← nodup_map_memberName_iff hnodup]
  exact ⟨hsame, Json.ofMembers_spec (memberName entries) ReportEntry.document entries,
    listsSeries_ofMembers_iff hentries⟩

/-- An accepted trace with a region at two depths, and another region whose name is that of the outer
one with its depth. Four series make three members, and the one under this name has the time of the
other region, so that the four seconds of the outer one are nowhere. -/
theorem results_drop_series :
    let trace := "before-a 0.0\nbefore-a 1.0\nafter-a 2.0\nafter-a 4.0\n" ++
      "before-a@1 5.0\nafter-a@1 5.5\n"
    let values := [({ name := "total", depth := 0 }, 7.0), ({ name := "a", depth := 1 }, 4.0),
      ({ name := "a", depth := 2 }, 1.0), ({ name := "a@1", depth := 1 }, 0.5)]
    let set := (SeriesSet.empty.replay [.record values]).2
    let stamp : RunStamp := { runId := "1", startedAt := "0" }
    let results := (ofSeries "time" .seconds set "app" stamp).document.member "results"
    (Probe.phaseTiming.extract { elapsed := Duration.ofSeconds 7 } trace).toOption = some values ∧
    ((results.member "a@1").member "samples").render = "[0.5]" ∧
    ¬ ListsSeries .seconds set.series results := by
  intro trace values set stamp results
  have hvalues : ∀ one ∈ set.series, one.values ≠ [] := by decide +kernel
  refine ⟨by decide +kernel, by decide +kernel, ?_⟩
  refine (listsSeries_ofMembers_iff (forall₂_entries .seconds hvalues)).not.2 ?_
  decide +kernel

end MetricsReport

end RunMeter
