import Mathlib.Data.List.Basic
import Mathlib.Data.List.Induction
import RunMeter.Text.Lines

/-!
# Lines of texts put together

A text that ends at the end of a line does not touch the first line of what follows it, so its lines
and those of the rest are the lines of the whole (`lines_append`). A row with a line feed behind it is
such a text, and if it holds no line feed of its own it is one line, the row without a carriage return
at its end (`lines_row_eq`).

A text that ends within a line has all of that line for its last one. A line feed behind it ends the
line, and takes a carriage return along (`lines_append_lineFeed`).
-/

set_option autoImplicit false

namespace RunMeter.Text

/-- A text without an unfinished last line. -/
def EndsLine (text : List Char) : Prop := text = [] ∨ text.getLast? = some '\n'

theorem endsLine_concat (text : List Char) : EndsLine (text ++ ['\n']) :=
  Or.inr List.getLast?_concat

/-- The end of a line separates what stands before it from what follows. -/
theorem linesFrom_append_lineFeed (reversed first second : List Char) :
    linesFrom reversed (first ++ '\n' :: second) =
      linesFrom reversed (first ++ ['\n']) ++ lines second := by
  induction first generalizing reversed with
  | nil =>
    rw [List.nil_append, List.nil_append, linesFrom, linesFrom, if_pos rfl, if_pos rfl]
    rfl
  | cons c first ih =>
    rw [List.cons_append, List.cons_append, linesFrom, linesFrom]
    split
    · rw [ih, List.cons_append]
    · exact ih (c :: reversed)

/-- A text that ends at the end of a line has its own lines, whatever follows. -/
theorem lines_append {first : List Char} (h : EndsLine first) (second : List Char) :
    lines (first ++ second) = lines first ++ lines second := by
  rcases h with rfl | hlast
  · rfl
  · obtain ⟨front, rfl⟩ := List.getLast?_eq_some_iff.1 hlast
    rw [List.append_assoc]
    exact linesFrom_append_lineFeed [] front second

/-- Characters that end no line belong to the current one. -/
theorem linesFrom_of_notMem {text : List Char} (h : '\n' ∉ text) (reversed rest : List Char) :
    linesFrom reversed (text ++ rest) = linesFrom (text.reverse ++ reversed) rest := by
  induction text generalizing reversed with
  | nil => rfl
  | cons c text ih =>
    rw [List.mem_cons, not_or] at h
    rw [List.cons_append, linesFrom, if_neg (Ne.symm h.1), ih h.2, List.reverse_cons,
      List.append_assoc]
    rfl

/-- What a row is as a line: a carriage return at its end belongs to the line break. -/
def withoutReturn (row : List Char) : List Char :=
  if row.getLast? = some '\r' then row.dropLast else row

theorem withoutReturn_of_ne {row : List Char} (h : row.getLast? ≠ some '\r') :
    withoutReturn row = row := if_neg h

@[simp]
theorem withoutReturn_concat (row : List Char) : withoutReturn (row ++ ['\r']) = row := by
  simp [withoutReturn]

theorem mem_of_mem_withoutReturn {row : List Char} {c : Char} (h : c ∈ withoutReturn row) :
    c ∈ row := by
  unfold withoutReturn at h
  split at h
  · exact List.dropLast_subset row h
  · exact h

theorem closeLine_reverse (row : List Char) : closeLine row.reverse = withoutReturn row := by
  rcases List.eq_nil_or_concat' row with rfl | ⟨front, c, rfl⟩
  · rfl
  · rw [List.reverse_append]
    by_cases hc : c = '\r'
    · rw [hc, withoutReturn_concat]
      exact List.reverse_reverse front
    · have hlast : (front ++ [c]).getLast? ≠ some '\r' := by simpa using hc
      have hline : closeLine (c :: front.reverse) = (c :: front.reverse).reverse := by
        unfold closeLine
        split
        next heq => exact absurd (List.cons.inj heq).1 hc
        next => rfl
      rw [withoutReturn_of_ne hlast]
      exact hline.trans (by simp)

/-- A row that holds no line feed is one line once it has one behind it. -/
theorem lines_row_eq {row : List Char} (hfeed : '\n' ∉ row) :
    lines (row ++ ['\n']) = [withoutReturn row] := by
  rw [lines, linesFrom_of_notMem hfeed, List.append_nil, linesFrom, if_pos rfl, closeLine_reverse]
  rfl

/-- A row that holds no line feed and does not end in a carriage return is one line. -/
theorem lines_row {row : List Char} (hfeed : '\n' ∉ row) (hreturn : row.getLast? ≠ some '\r') :
    lines (row ++ ['\n']) = [row] := by
  rw [lines_row_eq hfeed, withoutReturn_of_ne hreturn]

/-- A row without a line feed behind it is a line as it stands. -/
theorem lines_of_notMem {row : List Char} (hfeed : '\n' ∉ row) (hne : row ≠ []) :
    lines row = [row] := by
  have hrow : linesFrom [] (row ++ []) = linesFrom (row.reverse ++ []) [] :=
    linesFrom_of_notMem hfeed [] []
  rw [List.append_nil, List.append_nil] at hrow
  rw [lines, hrow, linesFrom, if_neg (by simpa using hne), List.reverse_reverse]

/-- A row that stands between two lines is a line between theirs. -/
theorem lines_insert {before row : List Char} (h : EndsLine before) (hfeed : '\n' ∉ row)
    (after : List Char) :
    lines (before ++ (row ++ '\n' :: after)) = lines before ++ withoutReturn row :: lines after := by
  have hrow := lines_append (endsLine_concat row) after
  rw [lines_row_eq hfeed, List.append_assoc] at hrow
  rw [lines_append h]
  exact congrArg (lines before ++ ·) hrow

/-- What stands behind the last line feed of a text is its unfinished line. -/
theorem exists_unfinished {text : List Char} (h : ¬ EndsLine text) :
    ∃ front row, text = front ++ row ∧ EndsLine front ∧ '\n' ∉ row ∧ row ≠ [] := by
  induction text using List.reverseRecOn with
  | nil => exact absurd (Or.inl rfl) h
  | append_singleton text c ih =>
    have hc : c ≠ '\n' := by
      rintro rfl
      exact h (endsLine_concat text)
    by_cases hends : EndsLine text
    · exact ⟨text, [c], rfl, hends, by simpa using hc.symm, List.cons_ne_nil _ _⟩
    · obtain ⟨front, row, rfl, hfront, hrow, -⟩ := ih hends
      refine ⟨front, row ++ [c], List.append_assoc _ _ _, hfront, ?_, List.concat_ne_nil c row⟩
      simpa using ⟨hrow, hc.symm⟩

/-- A line feed ends the last line of a text that ends within a line. -/
theorem lines_append_lineFeed {first : List Char} (h : ¬ EndsLine first) (second : List Char) :
    ∃ earlier last, last.getLast? = first.getLast? ∧ lines first = earlier ++ [last] ∧
      lines (first ++ '\n' :: second) = earlier ++ withoutReturn last :: lines second := by
  obtain ⟨front, row, rfl, hfront, hfeed, hne⟩ := exists_unfinished h
  refine ⟨lines front, row, ?_, ?_, ?_⟩
  · rw [List.getLast?_append_of_ne_nil front hne]
  · rw [lines_append hfront, lines_of_notMem hfeed hne]
  · rw [List.append_assoc]
    exact lines_insert hfront hfeed second

/-- A line is made of characters of the text. -/
theorem mem_of_mem_lines {text line : List Char} {c : Char} (hline : line ∈ lines text)
    (hc : c ∈ line) : c ∈ text := by
  have hclose : ∀ reversed : List Char, c ∈ closeLine reversed → c ∈ reversed := by
    intro reversed h
    unfold closeLine at h
    split at h
    · exact List.mem_cons_of_mem _ (List.mem_reverse.1 h)
    · exact List.mem_reverse.1 h
  have hfrom : ∀ reversed, line ∈ linesFrom reversed text → c ∈ reversed ++ text := by
    clear hline
    induction text with
    | nil =>
      intro reversed h
      rw [linesFrom] at h
      split at h
      · cases h
      · rw [List.mem_singleton.1 h, List.mem_reverse] at hc
        exact List.mem_append_left _ hc
    | cons d text ih =>
      intro reversed h
      rw [linesFrom] at h
      split at h
      · rcases List.mem_cons.1 h with rfl | h
        · exact List.mem_append_left _ (hclose reversed hc)
        · exact List.mem_append_right _ (List.mem_cons_of_mem _ (ih [] h))
      · have := ih (d :: reversed) h
        simp only [List.mem_append, List.mem_cons] at this ⊢
        tauto
  exact hfrom [] hline

end RunMeter.Text
