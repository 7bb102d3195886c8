import Mathlib.Data.List.Perm.Basic
import RunMeter.Probe
import RunMeter.Proofs.Series.Grouping

/-!
# When a sample counts as consistent

A sample is compared with the first one by the lengths of their key lists, and by whether each key of
the first is among its own. For lists without repetitions that is the comparison of two sets. Where a
key stands twice, a repetition in one list can make up for a key that only the other one has:
`sameKeys_iff` counts both, and `sameKeys_agrees_iff` says when the answer is that of the sets all the
same. `record_compares_with_first` is what this comes to after any history of calls, and
`repeated_key_misleads_comparison` shows traces whose answers are wrong either way.
-/

set_option autoImplicit false

namespace RunMeter

namespace MetricKey

/-! ## Counting keys -/

/-- How many keys of a list have stood in it before. -/
def repetitions (keys : List MetricKey) : Nat := keys.length - keys.eraseDups.length

/-- The keys of a list that are not expected, each once. -/
def unexpected (expected keys : List MetricKey) : List MetricKey :=
  keys.eraseDups.filter fun key => !expected.contains key

theorem length_eraseDups_add_repetitions (keys : List MetricKey) :
    keys.eraseDups.length + repetitions keys = keys.length := by
  have hle : keys.eraseDups.length ≤ keys.length :=
    (nodup_eraseDups keys).length_le_of_subset fun _ => List.mem_eraseDups.1
  rw [repetitions]
  omega

theorem unexpected_eq_nil_iff (expected keys : List MetricKey) :
    unexpected expected keys = [] ↔ ∀ key ∈ keys, key ∈ expected := by
  rw [unexpected, List.filter_eq_nil_iff]
  simp

/-- If no expected key is missing, a list has the expected keys and the unexpected ones. -/
theorem length_eraseDups_of_subset {expected keys : List MetricKey}
    (h : ∀ key ∈ expected, key ∈ keys) :
    keys.eraseDups.length = expected.eraseDups.length + (unexpected expected keys).length := by
  have hperm : (keys.eraseDups.filter fun key => expected.contains key).Perm
      expected.eraseDups := by
    rw [List.perm_ext_iff_of_nodup ((nodup_eraseDups keys).filter _) (nodup_eraseDups expected)]
    intro key
    rw [List.mem_filter, List.mem_eraseDups, List.mem_eraseDups, List.contains_iff_mem]
    exact and_iff_right_of_imp (h key)
  rw [List.length_eq_length_filter_add fun key => expected.contains key, hperm.length_eq]
  rfl

end MetricKey

open MetricKey (repetitions unexpected)

/-! ## Comparing two lists -/

/-- Two lists pass for the same if no expected key is missing and the repetitions among the expected
ones are as many as the unexpected keys and the repetitions together. -/
theorem sameKeys_iff (expected keys : List MetricKey) :
    sameKeys expected keys = true ↔ (∀ key ∈ expected, key ∈ keys) ∧
      repetitions expected = (unexpected expected keys).length + repetitions keys := by
  rw [sameKeys, Bool.and_eq_true, beq_iff_eq, List.all_eq_true]
  simp only [List.contains_iff_mem]
  rw [and_comm]
  apply and_congr_right
  intro hsubset
  have hdistinct := MetricKey.length_eraseDups_of_subset hsubset
  have hexpected := MetricKey.length_eraseDups_add_repetitions expected
  have hkeys := MetricKey.length_eraseDups_add_repetitions keys
  omega

/-- Two lists have the same keys if none is missing and none is unexpected. -/
theorem forall_mem_iff_mem_iff (expected keys : List MetricKey) :
    (∀ key, key ∈ expected ↔ key ∈ keys) ↔
      (∀ key ∈ expected, key ∈ keys) ∧ unexpected expected keys = [] := by
  rw [MetricKey.unexpected_eq_nil_iff]
  exact ⟨fun h => ⟨fun key => (h key).1, fun key => (h key).2⟩, fun h key => ⟨h.1 key, h.2 key⟩⟩

/-- The answer is right about the two sets just if an expected key is missing, or if the counts agree
exactly where no key is unexpected. -/
theorem sameKeys_agrees_iff (expected keys : List MetricKey) :
    (sameKeys expected keys = true ↔ ∀ key, key ∈ expected ↔ key ∈ keys) ↔
      (∃ key ∈ expected, key ∉ keys) ∨ (unexpected expected keys = [] ↔
        repetitions expected = (unexpected expected keys).length + repetitions keys) := by
  rw [sameKeys_iff, forall_mem_iff_mem_iff]
  by_cases hsubset : ∀ key ∈ expected, key ∈ keys
  · have hnone : ¬ ∃ key ∈ expected, key ∉ keys := by
      rintro ⟨key, hkey, hmissing⟩
      exact hmissing (hsubset key hkey)
    rw [and_iff_right hsubset, and_iff_right hsubset, or_iff_right hnone]
    exact iff_comm
  · have hsome : ∃ key ∈ expected, key ∉ keys := by
      simpa using hsubset
    simp only [hsubset, false_and, hsome, true_or]

/-! ## After a history of calls -/

/-- The keys of the sample that a run of calls records first. -/
def SeriesCall.firstKeys? (calls : List SeriesCall) : Option (List MetricKey) :=
  (calls.filterMap values?).head?.map fun values => values.map Prod.fst

namespace SeriesSet

/-- The keys that are expected once are expected for good; else the first sample decides. -/
theorem expected_replay (set : SeriesSet) (calls : List SeriesCall) :
    (set.replay calls).2.expected = set.expected.or (SeriesCall.firstKeys? calls) := by
  induction calls generalizing set with
  | nil => exact Option.or_none.symm
  | cons call calls ih =>
    cases call with
    | record values =>
      have hnext : (set.record values).2.expected =
          some (set.expected.getD (values.map Prod.fst)) := rfl
      have hfirst : SeriesCall.firstKeys? (.record values :: calls) =
          some (values.map Prod.fst) := rfl
      rw [hfirst]
      refine (ih (set.record values).2).trans ?_
      rw [hnext]
      cases set.expected with
      | none => rfl
      | some expected => rfl
    | exclude => exact ih set.exclude

/-- What a sample is answered after any history of calls on a new set, and when this answer is
whether it has the keys of the first sample. It counts as inconsistent just if the answer is no. The
answer is yes if there was no sample before, and else if no key of the first one is missing and
repetitions make up for what is unexpected. So it is right about the sets of keys just if a key is
missing, or if the counts agree exactly where nothing is unexpected. -/
theorem record_compares_with_first (calls : List SeriesCall) (values : List (MetricKey × Float)) :
    let set := (SeriesSet.empty.replay calls).2
    let keys := values.map Prod.fst
    let answer := (set.record values).1
    ((set.record values).2.inconsistent = set.inconsistent + if answer then 0 else 1) ∧
    (answer = true ↔ ∀ expected ∈ SeriesCall.firstKeys? calls, (∀ key ∈ expected, key ∈ keys) ∧
      repetitions expected = (unexpected expected keys).length + repetitions keys) ∧
    ((answer = true ↔ ∀ expected ∈ SeriesCall.firstKeys? calls,
        ∀ key, key ∈ expected ↔ key ∈ keys) ↔
      ∀ expected ∈ SeriesCall.firstKeys? calls, (∃ key ∈ expected, key ∉ keys) ∨
        (unexpected expected keys = [] ↔
          repetitions expected = (unexpected expected keys).length + repetitions keys)) := by
  intro set keys answer
  have hexpected : set.expected = SeriesCall.firstKeys? calls := by
    rw [expected_replay]
    rfl
  have hanswer : answer = (SeriesCall.firstKeys? calls).all fun expected =>
      sameKeys expected keys := by
    rw [← hexpected]
    rfl
  refine ⟨rfl, ?_⟩
  rw [hanswer]
  cases SeriesCall.firstKeys? calls with
  | none => simp
  | some expected =>
    simp only [Option.all_some, Option.mem_some_iff, forall_eq']
    exact ⟨sameKeys_iff expected keys, sameKeys_agrees_iff expected keys⟩

/-- Three accepted traces, the first with a region that shares the key of the launcher time. The
second one has a new region instead and is taken for consistent, the third one lacks the region only,
so that it has the same keys, and is not. -/
theorem repeated_key_misleads_comparison :
    let read := fun trace =>
      (Probe.phaseTiming.extract { elapsed := Duration.ofSeconds 3 } trace).toOption
    let total : MetricKey := { name := "total", depth := 0 }
    let launcher : MetricKey := { name := "jvm", depth := 1 }
    let main : MetricKey := { name := "main", depth := 1 }
    let load : MetricKey := { name := "load", depth := 1 }
    let first := [(total, 3.0), (launcher, 2.0), (launcher, 0.5), (main, 1.0)]
    let second := [(total, 3.0), (launcher, 2.0), (load, 0.5), (main, 1.0)]
    let third := [(total, 3.0), (launcher, 2.0), (main, 1.0)]
    let set := (SeriesSet.empty.replay [.record first]).2
    (read "before-jvm 0.0\nafter-jvm 0.5\nbefore-main 1.0\nafter-main 2.0\n" = some first ∧
      read "before-load 0.0\nafter-load 0.5\nbefore-main 1.0\nafter-main 2.0\n" = some second ∧
      read "before-main 1.0\nafter-main 2.0\n" = some third) ∧
    ((set.record second).1 = true ∧ (set.record second).2.inconsistent = 0 ∧
      load ∈ second.map Prod.fst ∧ load ∉ first.map Prod.fst) ∧
    ((set.record third).1 = false ∧ (set.record third).2.inconsistent = 1 ∧
      (∀ key ∈ first.map Prod.fst, key ∈ third.map Prod.fst) ∧
      ∀ key ∈ third.map Prod.fst, key ∈ first.map Prod.fst) := by
  decide +kernel

end SeriesSet

end RunMeter
