import Mathlib.Logic.Function.Basic
import RunMeter.Trace.Phase

/-!
# The table of regions as a list of keys with a state for each

A region is known by its depth and name, its `RegionKey`. `PhaseTable.ofKeys` is the table that has
one slot for each of the given keys, in their order. The operations of `PhaseTable` are read off such
a table without a look at its slots: looking up a key asks whether it is among the keys, and every
change of a slot is a `Function.update` of the states. Updates need the keys to be distinct, since
they stop at the first slot of their key.
-/

set_option autoImplicit false

namespace RunMeter

/-- A region by its depth and name. -/
abbrev RegionKey := Nat × String

namespace PhaseTable

/-- The slot of a key in a given state. -/
def slotOf (key : RegionKey) (state : SlotState) : Slot := { name := key.2, depth := key.1, state }

/-- The table with a slot for each key, in the order of the keys. -/
def ofKeys (keys : List RegionKey) (state : RegionKey → SlotState) : PhaseTable :=
  keys.map fun key => slotOf key (state key)

theorem isFor_slotOf (depth : Nat) (name : String) (key : RegionKey) (state : SlotState) :
    isFor depth name (slotOf key state) = decide (key = (depth, name)) := by
  rw [isFor, slotOf, Bool.eq_iff_iff, decide_eq_true_iff, Bool.and_eq_true, beq_iff_eq, beq_iff_eq,
    Prod.ext_iff]

theorem ofKeys_append (keys more : List RegionKey) (state : RegionKey → SlotState) :
    ofKeys (keys ++ more) state = ofKeys keys state ++ ofKeys more state := List.map_append

/-- States that differ for other keys only make the same table. -/
theorem ofKeys_update_of_notMem {keys : List RegionKey} {key : RegionKey} (h : key ∉ keys)
    (state : RegionKey → SlotState) (slotState : SlotState) :
    ofKeys keys (Function.update state key slotState) = ofKeys keys state := by
  unfold ofKeys
  apply List.map_congr_left
  intro other hother
  have hne : other ≠ key := by
    rintro rfl
    exact h hother
  rw [Function.update_of_ne hne]

theorem slot?_ofKeys (keys : List RegionKey) (state : RegionKey → SlotState) (depth : Nat)
    (name : String) :
    slot? (ofKeys keys state) depth name =
      if (depth, name) ∈ keys then some (slotOf (depth, name) (state (depth, name))) else none := by
  induction keys with
  | nil => rfl
  | cons key keys ih =>
    unfold slot? at ih ⊢
    rw [ofKeys, List.map_cons, List.find?_cons, isFor_slotOf]
    by_cases h : key = (depth, name)
    · subst h
      rw [if_pos List.mem_cons_self]
      simp only [decide_true]
    · have hmem : (depth, name) ∈ key :: keys ↔ (depth, name) ∈ keys := by
        rw [List.mem_cons, or_iff_right (Ne.symm h)]
      simp only [h, decide_false, hmem]
      exact ih

theorem update_ofKeys {keys : List RegionKey} (hnodup : keys.Nodup)
    (state : RegionKey → SlotState) (depth : Nat) (name : String) (slotState : SlotState) :
    update depth name slotState (ofKeys keys state) =
      ofKeys keys (Function.update state (depth, name) slotState) := by
  induction keys with
  | nil => rfl
  | cons key keys ih =>
    obtain ⟨hkey, hnodup⟩ := List.nodup_cons.1 hnodup
    rw [ofKeys, List.map_cons, update, isFor_slotOf]
    by_cases h : key = (depth, name)
    · subst h
      have hrest := ofKeys_update_of_notMem hkey state slotState
      unfold ofKeys at hrest ⊢
      rw [List.map_cons, Function.update_self, hrest, decide_eq_true rfl, if_pos rfl]
      rfl
    · have hrest := ih hnodup
      unfold ofKeys at hrest ⊢
      rw [List.map_cons, Function.update_of_ne h, hrest, decide_eq_false h]
      rfl

/-- A region can be opened if its key is new, and then gets the last slot. -/
theorem openRegion_ofKeys (keys : List RegionKey) (state : RegionKey → SlotState) (depth : Nat)
    (name : String) (start : Float) :
    openRegion (ofKeys keys state) depth name start =
      if (depth, name) ∈ keys then .error (.duplicate name depth)
      else .ok (ofKeys (keys ++ [(depth, name)])
        (Function.update state (depth, name) (.opened start))) := by
  rw [openRegion, slot?_ofKeys]
  by_cases h : (depth, name) ∈ keys
  · rw [if_pos h, if_pos h]
  · rw [if_neg h, if_neg h, ofKeys_append, ofKeys_update_of_notMem h]
    unfold ofKeys
    rw [List.map_singleton, Function.update_self]
    rfl

/-- A region whose state is open can be closed. -/
theorem closeRegion_ofKeys {keys : List RegionKey} (hnodup : keys.Nodup)
    {state : RegionKey → SlotState} {depth : Nat} {name : String} {start : Float}
    (hmem : (depth, name) ∈ keys) (hopen : state (depth, name) = .opened start) (finish : Float) :
    closeRegion (ofKeys keys state) depth name finish =
      .ok (ofKeys keys (Function.update state (depth, name) (.closed (finish - start))),
        finish - start) := by
  rw [closeRegion, slot?_ofKeys, if_pos hmem, hopen]
  simp only [slotOf]
  rw [update_ofKeys hnodup]

/-- A region whose state is not open cannot be closed. -/
theorem closeRegion_ofKeys_closed (keys : List RegionKey) {state : RegionKey → SlotState}
    {depth : Nat} {name : String} {seconds : Float}
    (hclosed : state (depth, name) = .closed seconds) (finish : Float) :
    closeRegion (ofKeys keys state) depth name finish = .error (.unmatched name depth) := by
  rw [closeRegion, slot?_ofKeys, hclosed]
  split
  · next hslot =>
    split at hslot
    · cases hslot
    · cases hslot
  · rfl

/-- A recorded duration goes to the slot of its key, or to a new one at the end. -/
theorem record_ofKeys {keys : List RegionKey} (hnodup : keys.Nodup) (state : RegionKey → SlotState)
    (depth : Nat) (name : String) (seconds : Float) :
    record (ofKeys keys state) depth name seconds =
      ofKeys (if (depth, name) ∈ keys then keys else keys ++ [(depth, name)])
        (Function.update state (depth, name) (.closed seconds)) := by
  rw [record, slot?_ofKeys]
  by_cases h : (depth, name) ∈ keys
  · rw [if_pos h, if_pos h]
    exact update_ofKeys hnodup state depth name (.closed seconds)
  · rw [if_neg h, if_neg h, ofKeys_append, ofKeys_update_of_notMem h]
    unfold ofKeys
    rw [List.map_singleton, Function.update_self]
    rfl

end PhaseTable

end RunMeter
