import Mathlib.Algebra.GroupWithZero.Nat
import Mathlib.Data.List.Induction
import Mathlib.Data.List.Nodup
import Mathlib.Logic.Function.Basic
import RunMeter.Series

/-!
# Series as the groups of the recorded pairs

Recording a sample walks through its pairs of a key and a value, looks for the series of each key
and makes one if there is none. `grouped` says what this comes to without a search: the keys of all
pairs recorded so far, each at its first appearance, with the values that were recorded under it.
`add_grouped` is the step, one more pair; `Gathers` says what a run of calls leads to, pairs and
counters, and is preserved by both calls. `replay_groups_pairs` reads the law of the series off it.
-/

set_option autoImplicit false

namespace RunMeter

/-- A call that changes a set of series. -/
inductive SeriesCall
  | record (values : List (MetricKey × Float))
  | exclude

namespace SeriesCall

/-- The pairs that a call records, if it is the recording one. -/
def values? : SeriesCall → Option (List (MetricKey × Float))
  | .record values => some values
  | .exclude => none

/-- The pairs that a run of calls records, one after another. -/
def pairs (calls : List SeriesCall) : List (MetricKey × Float) :=
  (calls.filterMap values?).flatten

theorem pairs_concat_record (calls : List SeriesCall) (values : List (MetricKey × Float)) :
    pairs (calls ++ [.record values]) = pairs calls ++ values := by
  rw [pairs, List.filterMap_append, List.flatten_append]
  change pairs calls ++ (values ++ []) = _
  rw [List.append_nil]

theorem pairs_concat_exclude (calls : List SeriesCall) :
    pairs (calls ++ [.exclude]) = pairs calls := by
  rw [pairs, List.filterMap_append, List.flatten_append]
  change pairs calls ++ [] = _
  rw [List.append_nil]

end SeriesCall

/-- What a run of calls answers, one answer for each recorded sample, and the set it leads to. -/
def SeriesSet.replay (set : SeriesSet) : List SeriesCall → List Bool × SeriesSet
  | [] => ([], set)
  | .record values :: calls =>
    let (consistent, next) := set.record values
    let (answers, last) := next.replay calls
    (consistent :: answers, last)
  | .exclude :: calls => set.exclude.replay calls

/-! ## First appearances -/

section Keys

variable {α : Type} [BEq α] [LawfulBEq α]

/-- An element that has appeared before is not kept again. -/
theorem eraseDups_concat_of_mem {keys : List α} {key : α} (h : key ∈ keys) :
    (keys ++ [key]).eraseDups = keys.eraseDups := by
  have hnone : [key].removeAll keys = [] := by
    rw [List.removeAll, List.filter_eq_nil_iff]
    intro other hother
    rw [List.mem_singleton.1 hother, List.elem_eq_true_of_mem h]
    exact Bool.false_ne_true
  rw [List.eraseDups_append, hnone, List.eraseDups_nil, List.append_nil]

/-- A new element is kept at the end. -/
theorem eraseDups_concat_of_notMem {keys : List α} {key : α} (h : key ∉ keys) :
    (keys ++ [key]).eraseDups = keys.eraseDups ++ [key] := by
  have hall : [key].removeAll keys = [key] := by
    rw [List.removeAll, List.filter_eq_self]
    intro other hother
    rw [List.mem_singleton.1 hother, Bool.not_eq_true', ← Bool.not_eq_true, List.elem_iff]
    exact h
  rw [List.eraseDups_append, hall, List.eraseDups_cons, List.filter_nil, List.eraseDups_nil]

/-- What is kept stands in the order of its first appearance. -/
theorem pairwise_idxOf_eraseDups (keys : List α) :
    keys.eraseDups.Pairwise fun key later => keys.idxOf key < keys.idxOf later := by
  induction keys using List.reverseRecOn with
  | nil => exact List.Pairwise.nil
  | append_singleton keys key ih =>
    have hearlier : keys.eraseDups.Pairwise fun other later =>
        (keys ++ [key]).idxOf other < (keys ++ [key]).idxOf later := by
      apply ih.imp_of_mem
      intro other later hother hlater hlt
      rw [List.idxOf_append_of_mem (List.mem_eraseDups.1 hother),
        List.idxOf_append_of_mem (List.mem_eraseDups.1 hlater)]
      exact hlt
    by_cases hkey : key ∈ keys
    · rw [eraseDups_concat_of_mem hkey]
      exact hearlier
    · rw [eraseDups_concat_of_notMem hkey, List.pairwise_append]
      refine ⟨hearlier, List.pairwise_singleton _ _, ?_⟩
      intro other hother last hlast
      have hmem := List.mem_eraseDups.1 hother
      rw [List.mem_singleton.1 hlast, List.idxOf_append_of_mem hmem, List.idxOf_append, if_neg hkey]
      exact Nat.lt_add_left _ (List.idxOf_lt_length_of_mem hmem)

theorem nodup_eraseDups (keys : List α) : keys.eraseDups.Nodup := by
  apply (pairwise_idxOf_eraseDups keys).imp
  rintro key later hlt rfl
  exact Nat.lt_irrefl _ hlt

end Keys

namespace Series

/-! ## Adding one pair -/

/-- Series that hold other values under another key only are the same. -/
theorem map_update_of_notMem {keys : List MetricKey} {key : MetricKey} (h : key ∉ keys)
    (values : MetricKey → List Float) (more : List Float) :
    (keys.map fun other => ({ key := other, values := Function.update values key more other } :
        Series)) =
      keys.map fun other => { key := other, values := values other } := by
  apply List.map_congr_left
  intro other hother
  have hne : other ≠ key := by
    rintro rfl
    exact h hother
  rw [Function.update_of_ne hne]

/-- A value goes to the series of its key, or to a new one at the end. -/
theorem add_map {keys : List MetricKey} (hnodup : keys.Nodup) (values : MetricKey → List Float)
    (key : MetricKey) (value : Float) :
    add key value (keys.map fun other => { key := other, values := values other }) =
      if key ∈ keys then keys.map fun other =>
        { key := other, values := Function.update values key (values key ++ [value]) other }
      else (keys.map fun other => { key := other, values := values other }) ++
        [{ key, values := [value] }] := by
  induction keys with
  | nil => rfl
  | cons first keys ih =>
    obtain ⟨hfirst, hnodup⟩ := List.nodup_cons.1 hnodup
    rw [List.map_cons, add]
    by_cases h : first = key
    · subst h
      rw [if_pos rfl, if_pos List.mem_cons_self, List.map_cons, map_update_of_notMem hfirst,
        Function.update_self]
    · have hmem : key ∈ first :: keys ↔ key ∈ keys := by
        rw [List.mem_cons, or_iff_right (Ne.symm h)]
      rw [if_neg h, ih hnodup, List.map_cons, Function.update_of_ne h]
      simp only [hmem]
      split
      · rfl
      · rfl

/-- One more value makes one series longer by one, or a new one of length one. -/
theorem sum_length_add (key : MetricKey) (value : Float) (series : List Series) :
    ((add key value series).map fun s => s.values.length).sum =
      (series.map fun s => s.values.length).sum + 1 := by
  induction series with
  | nil => rfl
  | cons first rest ih =>
    rw [add]
    split
    · rw [List.map_cons, List.sum_cons, List.map_cons, List.sum_cons, List.length_append,
        List.length_singleton]
      omega
    · rw [List.map_cons, List.sum_cons, ih, List.map_cons, List.sum_cons, Nat.add_assoc]

/-! ## Groups -/

/-- The values that are recorded under a key, in their order. -/
def valuesUnder (pairs : List (MetricKey × Float)) (key : MetricKey) : List Float :=
  (pairs.filter fun pair => decide (pair.1 = key)).map Prod.snd

/-- One series for each key, at its first appearance, with the values recorded under it. -/
def grouped (pairs : List (MetricKey × Float)) : List Series :=
  (pairs.map Prod.fst).eraseDups.map fun key => { key, values := valuesUnder pairs key }

theorem valuesUnder_concat (pairs : List (MetricKey × Float)) (key : MetricKey) (value : Float) :
    valuesUnder (pairs ++ [(key, value)]) =
      Function.update (valuesUnder pairs) key (valuesUnder pairs key ++ [value]) := by
  funext other
  rw [valuesUnder, List.filter_append, List.map_append]
  by_cases h : other = key
  · subst h
    rw [Function.update_self, List.filter_singleton, decide_eq_true rfl]
    rfl
  · rw [Function.update_of_ne h, List.filter_singleton, decide_eq_false (Ne.symm h)]
    exact List.append_nil _

/-- A key has values exactly if it is recorded. -/
theorem valuesUnder_eq_nil_iff (pairs : List (MetricKey × Float)) (key : MetricKey) :
    valuesUnder pairs key = [] ↔ key ∉ pairs.map Prod.fst := by
  rw [valuesUnder, List.map_eq_nil_iff, List.filter_eq_nil_iff, List.mem_map, not_exists]
  apply forall_congr'
  intro pair
  rw [decide_eq_true_iff, not_and]

theorem map_key_grouped (pairs : List (MetricKey × Float)) :
    (grouped pairs).map Series.key = (pairs.map Prod.fst).eraseDups := by
  rw [grouped, List.map_map]
  exact List.map_id _

theorem mem_grouped (pairs : List (MetricKey × Float)) (series : Series) :
    series ∈ grouped pairs ↔
      series.key ∈ pairs.map Prod.fst ∧ series.values = valuesUnder pairs series.key := by
  rw [grouped, List.mem_map]
  constructor
  · rintro ⟨key, hkey, rfl⟩
    exact ⟨List.mem_eraseDups.1 hkey, rfl⟩
  · rintro ⟨hkey, hvalues⟩
    refine ⟨series.key, List.mem_eraseDups.2 hkey, ?_⟩
    rw [← hvalues]

/-- Adding a pair groups it with the others. -/
theorem add_grouped (pairs : List (MetricKey × Float)) (key : MetricKey) (value : Float) :
    add key value (grouped pairs) = grouped (pairs ++ [(key, value)]) := by
  rw [grouped, add_map (nodup_eraseDups _), grouped, List.map_append, List.map_singleton,
    valuesUnder_concat]
  by_cases hkey : key ∈ pairs.map Prod.fst
  · rw [if_pos (List.mem_eraseDups.2 hkey), eraseDups_concat_of_mem hkey]
  · have hnew : key ∉ (pairs.map Prod.fst).eraseDups := by
      rw [List.mem_eraseDups]
      exact hkey
    rw [if_neg hnew, eraseDups_concat_of_notMem hkey, List.map_append, map_update_of_notMem hnew,
      List.map_singleton, Function.update_self, (valuesUnder_eq_nil_iff pairs key).2 hkey,
      List.nil_append]

/-- Adding the pairs of a sample one after another groups them with the others. -/
theorem foldl_add_grouped (pairs values : List (MetricKey × Float)) :
    values.foldl (fun series (key, value) => add key value series) (grouped pairs) =
      grouped (pairs ++ values) := by
  induction values generalizing pairs with
  | nil => rw [List.append_nil, List.foldl_nil]
  | cons pair values ih =>
    obtain ⟨key, value⟩ := pair
    rw [List.foldl_cons]
    dsimp only
    rw [add_grouped, ih, List.append_assoc, List.singleton_append]

/-- Looking for the key of a group finds the group. -/
theorem find?_grouped {pairs : List (MetricKey × Float)} {series : Series}
    (h : series ∈ grouped pairs) :
    (grouped pairs).find? (fun other => other.key == series.key) = some series := by
  cases hfind : (grouped pairs).find? (fun other => other.key == series.key) with
  | none =>
    rw [List.find?_eq_none] at hfind
    exact absurd BEq.rfl (hfind series h)
  | some other =>
    have hfound := List.find?_some hfind
    have hkey : other.key = series.key := eq_of_beq hfound
    have hother := ((mem_grouped pairs other).1 (List.mem_of_find?_eq_some hfind)).2
    rw [hkey, ← ((mem_grouped pairs series).1 h).2] at hother
    obtain ⟨key, values⟩ := other
    cases hkey
    cases hother
    rfl

theorem find?_grouped_eq_none {pairs : List (MetricKey × Float)} {key : MetricKey}
    (h : key ∉ pairs.map Prod.fst) :
    (grouped pairs).find? (fun series => series.key == key) = none := by
  rw [List.find?_eq_none]
  intro series hseries heq
  rw [← eq_of_beq heq] at h
  exact h ((mem_grouped pairs series).1 hseries).1

/-- The groups hold as many values as there are pairs. -/
theorem sum_length_grouped (pairs : List (MetricKey × Float)) :
    ((grouped pairs).map fun series => series.values.length).sum = pairs.length := by
  induction pairs using List.reverseRecOn with
  | nil => rfl
  | append_singleton pairs pair ih =>
    rw [← add_grouped, sum_length_add, ih, List.length_append, List.length_singleton]

end Series

namespace SeriesSet

/-! ## Runs of calls -/

/-- What a run of calls leads to: the recorded pairs in groups, and counters of the calls and of the
answers. -/
structure Gathers (calls : List SeriesCall) (answers : List Bool) (set : SeriesSet) : Prop where
  series : set.series = Series.grouped (SeriesCall.pairs calls)
  usable : set.usable = calls.countP fun call => call.values?.isSome
  excluded : set.excluded = calls.countP fun call => call.values?.isNone
  answered : answers.length = set.usable
  inconsistent : set.inconsistent = answers.count false
  /-- Before the first sample there is nothing to agree with. -/
  unexpected : set.usable = 0 → set.expected = none
  /-- The first sample is not inconsistent. -/
  inconsistent_lt : set.usable = 0 ∨ set.inconsistent < set.usable

theorem gathers_empty : Gathers [] [] .empty where
  series := rfl
  usable := rfl
  excluded := rfl
  answered := rfl
  inconsistent := rfl
  unexpected := fun _ => rfl
  inconsistent_lt := Or.inl rfl

/-- One more sample is recorded. -/
theorem Gathers.record {calls : List SeriesCall} {answers : List Bool} {set : SeriesSet}
    (h : Gathers calls answers set) (values : List (MetricKey × Float)) :
    Gathers (calls ++ [.record values]) (answers ++ [(set.record values).1])
      (set.record values).2 where
  series := by
    rw [SeriesCall.pairs_concat_record, ← Series.foldl_add_grouped, ← h.series]
    rfl
  usable := by
    rw [List.countP_append, ← h.usable]
    rfl
  excluded := by
    rw [List.countP_append, ← h.excluded]
    rfl
  answered := by
    rw [List.length_append, h.answered]
    rfl
  inconsistent := by
    rw [List.count_append, ← h.inconsistent]
    change set.inconsistent + (if set.isConsistent (values.map (·.1)) then 0 else 1) =
      set.inconsistent + [set.isConsistent (values.map (·.1))].count false
    cases set.isConsistent (values.map (·.1)) with
    | false => rfl
    | true => rfl
  unexpected := by
    intro hnone
    cases hnone
  inconsistent_lt := by
    right
    change set.inconsistent + (if set.isConsistent (values.map (·.1)) then 0 else 1) <
      set.usable + 1
    -- The first sample has nothing to differ from; after that the counts differ already.
    rcases h.inconsistent_lt with hfirst | hlt
    · have hconsistent : set.isConsistent (values.map (·.1)) = true := by
        rw [isConsistent, h.unexpected hfirst]
        rfl
      have hcount := h.inconsistent
      rw [List.length_eq_zero_iff.1 (h.answered.trans hfirst), List.count_nil] at hcount
      rw [hconsistent, hcount, if_pos rfl]
      exact Nat.succ_pos _
    · split
      · exact Nat.lt_succ_of_lt hlt
      · exact Nat.succ_lt_succ hlt

/-- One more sample is excluded. -/
theorem Gathers.exclude {calls : List SeriesCall} {answers : List Bool} {set : SeriesSet}
    (h : Gathers calls answers set) : Gathers (calls ++ [.exclude]) answers set.exclude where
  series := by
    rw [SeriesCall.pairs_concat_exclude]
    exact h.series
  usable := by
    rw [List.countP_append, ← h.usable]
    rfl
  excluded := by
    rw [List.countP_append, ← h.excluded]
    rfl
  answered := h.answered
  inconsistent := h.inconsistent
  unexpected := h.unexpected
  inconsistent_lt := h.inconsistent_lt

/-- A run of calls gathers what it is given, beside what was there. -/
theorem Gathers.replay {before : List SeriesCall} {answers : List Bool} {set : SeriesSet}
    (h : Gathers before answers set) (calls : List SeriesCall) :
    Gathers (before ++ calls) (answers ++ (set.replay calls).1) (set.replay calls).2 := by
  induction calls generalizing before answers set with
  | nil =>
    rw [List.append_nil, SeriesSet.replay, List.append_nil]
    exact h
  | cons call calls ih =>
    cases call with
    | record values =>
      have hrest := ih (h.record values)
      rw [List.append_assoc, List.append_assoc] at hrest
      exact hrest
    | exclude =>
      have hrest := ih h.exclude
      rw [List.append_assoc] at hrest
      exact hrest

/-- What a run of calls makes of a new set. The series have distinct keys, which are the recorded
ones in the order of their first appearance. Each series has the values recorded under its key, of
which there is at least one, and is the one found by its key; nothing is found for any other key.
Together the series have one value for each recorded pair. The counters are those of the calls and
of the samples whose keys were not the expected ones, which is never said of the first sample. -/
theorem replay_groups_pairs (calls : List SeriesCall) :
    let answers := (SeriesSet.empty.replay calls).1
    let set := (SeriesSet.empty.replay calls).2
    let pairs := SeriesCall.pairs calls
    let keys := pairs.map Prod.fst
    ((set.series.map Series.key).Nodup ∧
      (∀ key, key ∈ set.series.map Series.key ↔ key ∈ keys) ∧
      (set.series.map Series.key).Pairwise fun key later => keys.idxOf key < keys.idxOf later) ∧
    (∀ series ∈ set.series, series.values ≠ [] ∧
      series.values = (pairs.filter fun pair => decide (pair.1 = series.key)).map Prod.snd ∧
      set.get? series.key = some series) ∧
    (set.series.map fun series => series.values.length).sum = pairs.length ∧
    (∀ key, key ∉ keys → set.get? key = none) ∧
    set.usable = calls.countP (fun call => call.values?.isSome) ∧
    set.excluded = calls.countP (fun call => call.values?.isNone) ∧
    answers.length = set.usable ∧ set.inconsistent = answers.count false ∧
    (set.inconsistent = 0 ∨ set.inconsistent < set.usable) := by
  intro answers set pairs keys
  have hgathers : Gathers calls answers set := gathers_empty.replay calls
  have hkeys : set.series.map Series.key = keys.eraseDups := by
    rw [hgathers.series]
    exact Series.map_key_grouped pairs
  rw [hkeys]
  refine ⟨⟨nodup_eraseDups keys, fun key => List.mem_eraseDups, pairwise_idxOf_eraseDups keys⟩,
    ?_, ?_, ?_, hgathers.usable, hgathers.excluded, hgathers.answered, hgathers.inconsistent, ?_⟩
  · intro series hseries
    rw [hgathers.series] at hseries
    obtain ⟨hkey, hvalues⟩ := (Series.mem_grouped pairs series).1 hseries
    refine ⟨?_, hvalues, ?_⟩
    · rw [hvalues]
      intro hnil
      exact (Series.valuesUnder_eq_nil_iff _ _).1 hnil hkey
    · rw [get?, hgathers.series]
      exact Series.find?_grouped hseries
  · rw [hgathers.series]
    exact Series.sum_length_grouped pairs
  · intro key hkey
    rw [get?, hgathers.series]
    exact Series.find?_grouped_eq_none hkey
  · rcases hgathers.inconsistent_lt with hnone | hlt
    · left
      rw [hgathers.inconsistent, List.length_eq_zero_iff.1 (hgathers.answered.trans hnone)]
      rfl
    · exact Or.inr hlt

example :
    let first : MetricKey := { name := "run", depth := 1 }
    let second : MetricKey := { name := "load", depth := 2 }
    let (answers, set) := SeriesSet.empty.replay
      [.record [(first, 1.0), (second, 0.5)], .exclude, .record [(second, 0.25), (second, 0.75)]]
    answers = [true, false] ∧ set.usable = 2 ∧ set.excluded = 1 ∧ set.inconsistent = 1 ∧
      set.series.map (fun series => (series.key, series.values)) =
        [(first, [1.0]), (second, [0.5, 0.25, 0.75])] := by
  decide +kernel

end SeriesSet

end RunMeter
