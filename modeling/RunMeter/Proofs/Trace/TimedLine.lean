import RunMeter.Proofs.Text.Matching
import RunMeter.Trace.Marker

/-!
# The shape of timed lines

A timed line is split at its last blank, and its time is digits, a point and digits. Since a time
holds no blank, no other split of the line has a time behind it: `TimedLine.ofLine?_eq_some_iff` says
so without mention of the search for the blank. What stands before the blank announces a marker
exactly if it is the text of the marker (`Marker.ofText?_eq_some_iff`).
-/

set_option autoImplicit false

namespace RunMeter

open RunMeter.Text

/-- A text that is digits, a point and digits, with at least one digit on both sides. -/
def HasTimeShape (text : List Char) : Prop :=
  ∃ whole fraction, text = whole ++ '.' :: fraction ∧ whole ≠ [] ∧ fraction ≠ [] ∧
    (∀ c ∈ whole, isDecimalDigit c = true) ∧ ∀ c ∈ fraction, isDecimalDigit c = true

/-- A line that is some text, a blank and a time. -/
structure IsTimed (line text time : List Char) : Prop where
  line_eq : line = text ++ ' ' :: time
  text_ne_nil : text ≠ []
  hasTimeShape : HasTimeShape time

/-- The text that announces a marker. -/
def Marker.text : Marker → List Char
  | .before name => "before-".toList ++ name.toList
  | .after name => "after-".toList ++ name.toList

theorem isTime_iff (text : List Char) : isTime text = true ↔ HasTimeShape text := by
  have hpoint : isDecimalDigit '.' = false := isDecimalDigit_eq_isDigit (by decide)
  unfold isTime
  constructor
  · intro h
    split at h
    · next fraction hdrop =>
      simp only [Bool.and_eq_true, Bool.not_eq_true', List.isEmpty_eq_false_iff,
        List.all_eq_true] at h
      refine ⟨text.takeWhile isDecimalDigit, fraction, ?_, h.1.1, h.1.2, ?_, h.2⟩
      · rw [← hdrop, List.takeWhile_append_dropWhile]
      · intro c hc
        exact List.all_eq_true.1 List.all_takeWhile c hc
    · cases h
  · rintro ⟨whole, fraction, rfl, hwhole, hfraction, hdigits, hfdigits⟩
    have hstop : ∀ rest, ('.' :: rest).takeWhile isDecimalDigit = [] := by
      intro rest
      rw [List.takeWhile_cons, hpoint]
      rfl
    rw [List.dropWhile_append_of_pos hdigits, List.dropWhile_cons, hpoint,
      List.takeWhile_append_of_pos hdigits, hstop, List.append_nil]
    simp only [Bool.and_eq_true, Bool.not_eq_true', List.isEmpty_eq_false_iff, List.all_eq_true,
      Bool.false_eq_true, ↓reduceIte]
    exact ⟨⟨hwhole, hfraction⟩, hfdigits⟩

/-- A time holds no blank. -/
theorem HasTimeShape.ne_blank {time : List Char} (h : HasTimeShape time) :
    ∀ c ∈ time, (c != ' ') = true := by
  obtain ⟨whole, fraction, rfl, -, -, hwhole, hfraction⟩ := h
  have hdigit : ∀ c, isDecimalDigit c = true → (c != ' ') = true := by
    intro c hc
    rw [bne_iff_ne]
    rintro rfl
    rw [isDecimalDigit_eq_isDigit (by decide)] at hc
    exact absurd hc (by decide)
  intro c hc
  rw [List.mem_append, List.mem_cons] at hc
  rcases hc with hc | rfl | hc
  · exact hdigit c (hwhole c hc)
  · decide
  · exact hdigit c (hfraction c hc)

/-- A line is timed if it is some text, a blank and a time, and then these are its parts. -/
theorem TimedLine.ofLine?_eq_some_iff (line text time : List Char) :
    TimedLine.ofLine? line = some ⟨text, time⟩ ↔ IsTimed line text time := by
  unfold TimedLine.ofLine?
  constructor
  · intro h
    dsimp only at h
    split at h
    · next reversedText hdrop =>
      split at h
      · next hshape =>
        simp only [Bool.and_eq_true, Bool.not_eq_true', List.isEmpty_eq_false_iff] at hshape
        simp only [Option.some.injEq, TimedLine.mk.injEq] at h
        obtain ⟨rfl, rfl⟩ := h
        refine ⟨?_, ?_, (isTime_iff _).1 hshape.2⟩
        · have hsplit := List.takeWhile_append_dropWhile (p := (· != ' ')) (l := line.reverse)
          rw [hdrop] at hsplit
          have hline := congrArg List.reverse hsplit
          rw [List.reverse_reverse, List.reverse_append, List.reverse_cons, List.append_assoc]
            at hline
          exact hline.symm
        · intro hnil
          exact hshape.1 (List.reverse_eq_nil_iff.1 hnil)
      · cases h
    · cases h
  · rintro ⟨rfl, htext, htime⟩
    have hblank : ∀ c ∈ time.reverse, (c != ' ') = true := by
      intro c hc
      exact htime.ne_blank c (List.mem_reverse.1 hc)
    have hreverse : (text ++ ' ' :: time).reverse = time.reverse ++ ' ' :: text.reverse := by
      rw [List.reverse_append, List.reverse_cons, List.append_assoc]
      rfl
    have htake : (time.reverse ++ ' ' :: text.reverse).takeWhile (· != ' ') = time.reverse := by
      rw [List.takeWhile_append_of_pos hblank]
      exact List.append_nil _
    have hdrop : (time.reverse ++ ' ' :: text.reverse).dropWhile (· != ' ') =
        ' ' :: text.reverse := by
      rw [List.dropWhile_append_of_pos hblank]
      rfl
    have hnonempty : text.reverse.isEmpty = false := by
      rw [List.isEmpty_eq_false_iff]
      intro hnil
      exact htext (List.reverse_eq_nil_iff.1 hnil)
    simp only [hreverse, htake, hdrop, List.reverse_reverse, hnonempty,
      (isTime_iff time).2 htime]
    rfl

@[simp]
theorem Marker.text_before (name : String) :
    (Marker.before name).text = "before-".toList ++ name.toList := rfl

@[simp]
theorem Marker.text_after (name : String) :
    (Marker.after name).text = "after-".toList ++ name.toList := rfl

/-- A text announces a marker if it is the text of that marker. -/
theorem Marker.ofText?_eq_some_iff (text : List Char) (marker : Marker) :
    Marker.ofText? text = some marker ↔ text = marker.text := by
  have hother : ∀ name, after? "before-".toList ("after-".toList ++ name) = none := fun name => rfl
  unfold Marker.ofText?
  constructor
  · intro h
    cases hbefore : after? "before-".toList text with
    | some name =>
      rw [hbefore] at h
      obtain rfl := Option.some.inj h
      rw [Marker.text_before, @String.toList_ofList name]
      exact after?_eq_some_iff.1 hbefore
    | none =>
      rw [hbefore] at h
      obtain ⟨name, hafter, rfl⟩ := Option.map_eq_some_iff.1 h
      rw [Marker.text_after, @String.toList_ofList name]
      exact after?_eq_some_iff.1 hafter
  · rintro rfl
    cases marker with
    | before name =>
      rw [Marker.text_before, after?_eq_some_iff.2 rfl]
      simp only [String.ofList_toList]
    | after name =>
      rw [Marker.text_after, hother, after?_eq_some_iff.2 rfl]
      simp only [Option.map_some, String.ofList_toList]

end RunMeter
