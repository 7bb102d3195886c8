import Mathlib.Data.List.Basic
import RunMeter.Command

/-!
# Changes to the environment

Setting a variable decides what becomes of that variable (`Overlay.change?_set_self`) and leaves the
changes of all others as they are: the same ones, in the same order (`Overlay.others_set`). It keeps the
variables in their order, so that none of them has two changes (`Overlay.IsOrdered.set`).
-/

set_option autoImplicit false

namespace RunMeter.Overlay

/-- The changes of all variables but one. -/
def others (key : String) (overlay : Overlay) : Overlay :=
  overlay.filter fun entry => entry.1 ≠ key

theorem others_cons_self (key : String) (change : Option String) (overlay : Overlay) :
    others key ((key, change) :: overlay) = others key overlay := by
  simp [others]

theorem others_cons_of_ne {key other : String} (h : other ≠ key) (change : Option String)
    (overlay : Overlay) :
    others key ((other, change) :: overlay) = (other, change) :: others key overlay := by
  simp [others, h]

/-- A variable has the change that it was given last. -/
@[simp]
theorem change?_set_self (key : String) (change : Option String) (overlay : Overlay) :
    (overlay.set key change).change? key = some change := by
  unfold change?
  induction overlay with
  | nil => simp [set]
  | cons entry overlay ih =>
    obtain ⟨first, old⟩ := entry
    unfold set
    split_ifs with hsame hbefore
    · simp
    · simp
    · rw [List.lookup_cons, beq_false_of_ne (Ne.symm hsame)]
      exact ih

/-- The changes of other variables stay. -/
@[simp]
theorem others_set (key : String) (change : Option String) (overlay : Overlay) :
    others key (overlay.set key change) = others key overlay := by
  induction overlay with
  | nil => simp [set, others]
  | cons entry overlay ih =>
    obtain ⟨first, old⟩ := entry
    unfold set
    split_ifs with hsame hbefore
    · rw [hsame, others_cons_self, others_cons_self]
    · rw [others_cons_self]
    · rw [others_cons_of_ne hsame, others_cons_of_ne hsame, ih]

/-- The change of a variable is to be found among those of all but another one. -/
theorem change?_others {key other : String} (h : other ≠ key) (overlay : Overlay) :
    (others key overlay).change? other = overlay.change? other := by
  unfold change?
  induction overlay with
  | nil => rfl
  | cons entry overlay ih =>
    obtain ⟨first, old⟩ := entry
    by_cases hfirst : first = key
    · rw [hfirst, others_cons_self, ih, List.lookup_cons, beq_false_of_ne h]
    · rw [others_cons_of_ne hfirst, List.lookup_cons, List.lookup_cons, ih]

theorem change?_set_of_ne {key other : String} (h : other ≠ key) (change : Option String)
    (overlay : Overlay) : (overlay.set key change).change? other = overlay.change? other := by
  rw [← change?_others h, others_set, change?_others h]

/-- The variables stand in their order, each of them once. -/
def IsOrdered (overlay : Overlay) : Prop := (overlay.map Prod.fst).Pairwise (· < ·)

/-- Setting a variable brings in no other one. -/
theorem eq_or_mem_of_mem_set {key other : String} {change : Option String} {overlay : Overlay}
    (h : other ∈ (overlay.set key change).map Prod.fst) :
    other = key ∨ other ∈ overlay.map Prod.fst := by
  induction overlay with
  | nil => simpa [set] using h
  | cons entry overlay ih =>
    obtain ⟨first, old⟩ := entry
    unfold set at h
    split_ifs at h with hsame hbefore
    · rw [List.map_cons, List.mem_cons] at h
      exact h.imp_right (List.mem_cons_of_mem _)
    · rw [List.map_cons, List.mem_cons] at h
      exact h
    · rw [List.map_cons, List.mem_cons] at h
      rcases h with h | h
      · exact Or.inr (by simp [h])
      · exact (ih h).imp_right (List.mem_cons_of_mem _)

theorem IsOrdered.set {overlay : Overlay} (h : overlay.IsOrdered) (key : String)
    (change : Option String) : (overlay.set key change).IsOrdered := by
  unfold IsOrdered at h ⊢
  induction overlay with
  | nil => simp [Overlay.set]
  | cons entry overlay ih =>
    obtain ⟨first, old⟩ := entry
    obtain ⟨hfirst, hrest⟩ := List.pairwise_cons.1 h
    unfold Overlay.set
    split_ifs with hsame hbefore
    · rw [← hsame]
      exact h
    · refine List.pairwise_cons.2 ⟨?_, h⟩
      intro other hother
      rcases List.mem_cons.1 hother with rfl | hother
      · exact hbefore
      · exact String.lt_trans hbefore (hfirst other hother)
    · have hafter : first < key := by
        by_contra hnot
        exact hsame (String.le_antisymm (String.not_lt.1 hbefore) (String.not_lt.1 hnot))
      refine List.pairwise_cons.2 ⟨?_, ih hrest⟩
      intro other hother
      rcases eq_or_mem_of_mem_set hother with rfl | hother
      · exact hafter
      · exact hfirst other hother

end RunMeter.Overlay
