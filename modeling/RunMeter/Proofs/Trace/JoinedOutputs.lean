import RunMeter.Proofs.Trace.AllocatedBytes
import RunMeter.Proofs.Trace.PhaseReading

/-!
# Traces over both outputs

The two outputs of a sample are joined so that they share no line: a line feed is put between them
where the first one ends within a line. So the lines of the whole are the lines of both, with one
exception: if the first output ends in a carriage return, the line feed behind it takes that along
(`Sample.lines_combined`, `Sample.lines_combined_of_return`).

Whatever is read line by line is then read off the outputs one after the other. That holds of the
allocated bytes, which add up, and of the phases, whose markers are those of the first output and
then those of the second: the entries are those of the nesting that all of them lead to, if together
they are well nested (`Sample.combined_keeps_lines`).
-/

set_option autoImplicit false

namespace RunMeter

open RunMeter.Text

namespace Sample

variable {sample : Sample}

/-- Outputs that need no line feed between them stand one behind the other. -/
theorem toList_combined_of_endsLine
    (h : EndsLine sample.stdout.toList ∨ sample.stderr.toList = []) :
    sample.combined.toList = sample.stdout.toList ++ sample.stderr.toList := by
  unfold combined
  rw [String.toList_ofList, if_neg, List.append_nil]
  rcases h with (hempty | hfeed) | hempty
  · simp [hempty]
  · simp [hfeed]
  · simp [hempty]

/-- Else a line feed is put between them. -/
theorem toList_combined_of_not_endsLine (hout : ¬ EndsLine sample.stdout.toList)
    (herr : sample.stderr.toList ≠ []) :
    sample.combined.toList = sample.stdout.toList ++ '\n' :: sample.stderr.toList := by
  obtain ⟨hne, hfeed⟩ := not_or.1 hout
  have hbreak : (!sample.stdout.toList.isEmpty && sample.stdout.toList.getLast? != some '\n' &&
      !sample.stderr.toList.isEmpty) = true := by
    rw [Bool.and_eq_true, Bool.and_eq_true]
    exact ⟨⟨by simpa using hne, bne_iff_ne.2 hfeed⟩, by simpa using herr⟩
  unfold combined
  rw [String.toList_ofList, if_pos hbreak, List.append_assoc]
  rfl

/-- The lines of the first output are followed by those of the second. -/
theorem lines_combined
    (h : ¬ (sample.stdout.toList.getLast? = some '\r' ∧ sample.stderr.toList ≠ [])) :
    lines sample.combined.toList = lines sample.stdout.toList ++ lines sample.stderr.toList := by
  by_cases herr : sample.stderr.toList = []
  · rw [toList_combined_of_endsLine (Or.inr herr), herr, List.append_nil, lines_nil, List.append_nil]
  by_cases hout : EndsLine sample.stdout.toList
  · rw [toList_combined_of_endsLine (Or.inl hout), lines_append hout]
  · obtain ⟨earlier, last, hlast, hlines, hjoined⟩ :=
      lines_append_lineFeed hout sample.stderr.toList
    have hreturn : last.getLast? ≠ some '\r' := fun heq => h ⟨hlast.symm.trans heq, herr⟩
    rw [toList_combined_of_not_endsLine hout herr, hjoined, hlines, withoutReturn_of_ne hreturn,
      List.append_assoc]
    rfl

/-- A carriage return at the end of the first output is lost to the line feed behind it. -/
theorem lines_combined_of_return (hreturn : sample.stdout.toList.getLast? = some '\r')
    (herr : sample.stderr.toList ≠ []) :
    ∃ earlier last, lines sample.stdout.toList = earlier ++ [last ++ ['\r']] ∧
      lines sample.combined.toList = earlier ++ last :: lines sample.stderr.toList := by
  have hout : ¬ EndsLine sample.stdout.toList := by
    rintro (hempty | hfeed)
    · rw [hempty] at hreturn
      cases hreturn
    · rw [hreturn] at hfeed
      exact absurd hfeed (by decide)
  obtain ⟨earlier, last, hlast, hlines, hjoined⟩ :=
    lines_append_lineFeed hout sample.stderr.toList
  obtain ⟨front, rfl⟩ := List.getLast?_eq_some_iff.1 (hlast.trans hreturn)
  refine ⟨earlier, front, hlines, ?_⟩
  rw [toList_combined_of_not_endsLine hout herr, hjoined, withoutReturn_concat]

/-- Joining the outputs makes no line and loses none. -/
theorem length_lines_combined (sample : Sample) :
    (lines sample.combined.toList).length =
      (lines sample.stdout.toList).length + (lines sample.stderr.toList).length := by
  by_cases h : sample.stdout.toList.getLast? = some '\r' ∧ sample.stderr.toList ≠ []
  · obtain ⟨earlier, last, hlines, hjoined⟩ := lines_combined_of_return h.1 h.2
    rw [hlines, hjoined, List.length_append, List.length_append, List.length_cons,
      List.length_singleton]
    omega
  · rw [lines_combined h, List.length_append]

/-- A first output that ends within a line, and one that ends in a carriage return. -/
example :
    lines (combined { stdout := "a\nb", stderr := "c\n" }).toList = [['a'], ['b'], ['c']] ∧
      lines (combined { stdout := "b\r", stderr := "c" }).toList = [['b'], ['c']] := by
  decide +kernel

/-- The lines of both outputs joined are those of the first and then those of the second, except that
a carriage return at the end of the first output is taken off its last line if there is a second
output. So without such a carriage return the allocated bytes of the outputs add up, up to the largest
word, and the phases are read off the markers of the first output and then those of the second: the
entries are those of the nesting that these markers lead to, and the trace is a violation if they are
not well nested together or if a time in either output cannot be read. Reading goes on in the second
output from the state that the first one leads to. -/
theorem combined_keeps_lines (sample : Sample) :
    let out := sample.stdout.toList
    let err := sample.stderr.toList
    let joined := sample.combined.toList
    (lines joined).length = (lines out).length + (lines err).length ∧
    (¬ (out.getLast? = some '\r' ∧ err ≠ []) → lines joined = lines out ++ lines err) ∧
    (out.getLast? = some '\r' → err ≠ [] →
      ∃ earlier last, lines out = earlier ++ [last ++ ['\r']] ∧
        lines joined = earlier ++ last :: lines err) ∧
    (out.getLast? ≠ some '\r' →
      let markers := markersOf (lines out) ++ markersOf (lines err)
      Allocation.total joined = saturatingAdd (Allocation.total out) (Allocation.total err) ∧
      markersOf (lines joined) = markers ∧
      (∀ wall, (∀ line ∈ lines out ++ lines err, TimeReadable line) ∧ WellNested markers →
        Phases.parse joined wall = .ok ((Nesting.after markers).entries wall)) ∧
      (∀ wall, ¬ ((∀ line ∈ lines out ++ lines err, TimeReadable line) ∧ WellNested markers) →
        ∃ violation, Phases.parse joined wall = .error violation ∧
          (Probe.broken violation).kind = .protocol) ∧
      ∀ wall, Phases.parse joined wall =
        match PhaseState.readLines {} (lines out) with
        | .error violation => .error violation
        | .ok state =>
          match state.readLines (lines err) with
          | .error violation => .error violation
          | .ok last => .ok (Phases.ofState last wall)) := by
  intro out err joined
  refine ⟨length_lines_combined sample, lines_combined, lines_combined_of_return, ?_⟩
  intro hreturn markers
  have hlines : lines joined = lines out ++ lines err := lines_combined fun h => hreturn h.1
  have hmarkers : markersOf (lines joined) = markers := by
    rw [hlines, markersOf, List.filterMap_append]
    rfl
  have hrules : FollowsRules (lines joined) ↔
      (∀ line ∈ lines out ++ lines err, TimeReadable line) ∧ WellNested markers := by
    rw [FollowsRules, hmarkers, hlines]
  refine ⟨Allocation.total_of_lines hlines, hmarkers, ?_, ?_, ?_⟩
  · intro wall hfollows
    rw [← hmarkers]
    exact parse_of_followsRules (hrules.2 hfollows) wall
  · intro wall hbroken
    exact parse_of_not_followsRules (fun hfollows => hbroken (hrules.1 hfollows)) wall
  · intro wall
    rw [Phases.parse, hlines, PhaseState.readLines_append]
    cases PhaseState.readLines {} (lines out) with
    | error violation => rfl
    | ok state => rfl

/-- A first output that ends within an announcement, one that ends in a carriage return, and one that
opens the regions which the second output closes. -/
theorem combined_keeps_lines_within_line :
    let sample : Sample := { stdout := "7K->1K\r\nallocated 5", stderr := "2K->0K\n" }
    let other : Sample := { stdout := "a\nallocated 5\r", stderr := "b" }
    let split : Sample :=
      { stdout := "before-main 0.5\nbefore-run 0.6", stderr := "after-run 1.6\nafter-main 1.7\n" }
    let markers := markersOf (lines split.stdout.toList) ++ markersOf (lines split.stderr.toList)
    let wall := Duration.ofSeconds 2
    Allocation.total sample.combined.toList = 8197 ∧
      Allocation.total sample.stdout.toList = 6149 ∧
      Allocation.total sample.stderr.toList = 2048 ∧
      (∃ earlier last, lines other.stdout.toList = earlier ++ [last ++ ['\r']] ∧
        lines other.combined.toList = earlier ++ last :: lines other.stderr.toList) ∧
      markers.map TimedMarker.marker =
        [.before "main", .before "run", .after "run", .after "main"] ∧
      Phases.parse split.combined.toList wall = .ok ((Nesting.after markers).entries wall) ∧
      ((Nesting.after markers).entries wall).map (fun entry => (entry.name, entry.depth)) =
        [("total", 0), ("jvm", 1), ("main", 1), ("run", 2), ("unaccounted", 3)] := by
  intro sample other split markers wall
  obtain ⟨-, -, -, htrace⟩ := combined_keeps_lines sample
  obtain ⟨-, -, hexception, -⟩ := combined_keeps_lines other
  obtain ⟨-, -, -, hphases⟩ := combined_keeps_lines split
  have hout : Allocation.total sample.stdout.toList = 6149 := by decide +kernel
  have herr : Allocation.total sample.stderr.toList = 2048 := by decide +kernel
  obtain ⟨htotal, -⟩ := htrace (by decide +kernel)
  obtain ⟨-, -, hnested, hbroken, -⟩ := hphases (by decide +kernel)
  have hrules : (∀ line ∈ lines split.stdout.toList ++ lines split.stderr.toList,
      TimeReadable line) ∧ WellNested markers := by
    by_contra h
    obtain ⟨violation, hviolation, -⟩ := hbroken wall h
    have hok : (Phases.parse split.combined.toList wall).isOk = true := by decide +kernel
    rw [hviolation] at hok
    cases hok
  refine ⟨?_, hout, herr, hexception (by decide +kernel) (by decide +kernel), ?_,
    hnested wall hrules, ?_⟩
  · rw [htotal, hout, herr]
    decide +kernel
  · decide +kernel
  · decide +kernel

end Sample

end RunMeter
