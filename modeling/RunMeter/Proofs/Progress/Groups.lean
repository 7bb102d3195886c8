import Mathlib.Data.List.Basic
import RunMeter.Progress

/-!
# What a progress display has shown

The calls on a display are steps and finishes, and the finishes cut a row of calls into groups of
steps. On a terminal a group is a line of glyphs: while it lasts, the display waits for the end of the
line exactly if the group has begun (`Progress.after_group`), so that the finish behind it ends the line
of a group with steps and writes nothing for one without. Elsewhere every step is a line of its own and
a finish changes nothing (`Progress.after_lines`). A sink that refuses all writes goes through the same
states without a text (`Progress.after_refused`).

`Progress.closed_after_terminal` goes from group to group, and `Progress.shows_groups` puts the three
kinds of displays together.
-/

set_option autoImplicit false

namespace RunMeter

/-! ## Calls -/

/-- A call on a progress display. -/
inductive ProgressCall
  | step (glyph line : String)
  | finish
deriving DecidableEq, Repr

namespace ProgressCall

/-- Makes the call. -/
def apply : ProgressCall → Progress → Progress
  | .step glyph line, progress => progress.step glyph line
  | .finish, progress => progress.finish

/-- What a call writes on a terminal, the end of the line apart. -/
def glyph : ProgressCall → String
  | .step glyph _ => glyph
  | .finish => ""

/-- What a call writes elsewhere. -/
def lineText : ProgressCall → String
  | .step _ line => line ++ "\n"
  | .finish => ""

/-- Whether a call is a step. -/
def isStep : ProgressCall → Bool
  | .step _ _ => true
  | .finish => false

/-- What a group of steps is on a terminal: one line of all its glyphs, and nothing without steps. -/
def groupText (group : List ProgressCall) : String :=
  String.join (group.map glyph) ++ if group.isEmpty then "" else "\n"

end ProgressCall

namespace Progress

/-- A display after a row of calls. -/
def after (progress : Progress) (calls : List ProgressCall) : Progress :=
  calls.foldl (fun progress call => call.apply progress) progress

theorem after_cons (progress : Progress) (call : ProgressCall) (calls : List ProgressCall) :
    progress.after (call :: calls) = (call.apply progress).after calls := rfl

theorem after_append (progress : Progress) (calls more : List ProgressCall) :
    progress.after (calls ++ more) = (progress.after calls).after more :=
  List.foldl_append

/-- What kind of display it is does not change. -/
theorem kind_apply (call : ProgressCall) (progress : Progress) :
    (call.apply progress).isTerminal = progress.isTerminal ∧
      (call.apply progress).acceptsText = progress.acceptsText := by
  cases call with
  | step glyph line =>
    simp only [ProgressCall.apply, step, write]
    split_ifs <;> exact ⟨rfl, rfl⟩
  | finish =>
    simp only [ProgressCall.apply, finish, write]
    split_ifs <;> exact ⟨rfl, rfl⟩

theorem kind_after (progress : Progress) (calls : List ProgressCall) :
    (progress.after calls).isTerminal = progress.isTerminal ∧
      (progress.after calls).acceptsText = progress.acceptsText := by
  induction calls generalizing progress with
  | nil => exact ⟨rfl, rfl⟩
  | cons call calls ih =>
    obtain ⟨hterminal, haccepts⟩ := ih (call.apply progress)
    obtain ⟨hsameTerminal, hsameAccepts⟩ := kind_apply call progress
    exact ⟨hterminal.trans hsameTerminal, haccepts.trans hsameAccepts⟩

/-- No line waits for its end behind a finish. -/
theorem isPending_finish (progress : Progress) : progress.finish.isPending = false := by
  unfold finish write
  split_ifs with hpending haccepts
  · rfl
  · rfl
  · simpa using hpending

/-- A display that is finished stays as it is. -/
theorem finish_finish (progress : Progress) : progress.finish.finish = progress.finish := by
  rw [finish, isPending_finish]
  rfl

/-- Closing a display ends the line that waits for its end. -/
theorem closed_eq {progress : Progress} (h : progress.acceptsText = true) :
    progress.closed = progress.written ++ if progress.isPending then "\n" else "" := by
  unfold closed finish write
  cases progress.isPending <;> simp [h]

/-! ## Terminals -/

/-- The steps of a group are written one behind another, and their line waits for its end. -/
theorem after_group {group : List ProgressCall} (h : .finish ∉ group) (isPending : Bool)
    (written : String) :
    after { isTerminal := true, isPending, written } group =
      { isTerminal := true
        isPending := isPending || !group.isEmpty
        written := written ++ String.join (group.map ProgressCall.glyph) } := by
  induction group generalizing isPending written with
  | nil => simp [after]
  | cons call group ih =>
    rw [List.mem_cons, not_or] at h
    obtain ⟨hcall, hgroup⟩ := h
    cases call with
    | finish => exact absurd rfl hcall
    | step glyph line =>
      have hstep : ProgressCall.apply (.step glyph line)
          { isTerminal := true, isPending, written } =
          { isTerminal := true, isPending := true, written := written ++ glyph } := rfl
      rw [after_cons, hstep, ih hgroup, List.map_cons, String.join_cons, String.append_assoc]
      simp [ProgressCall.glyph]

/-- A finish writes the end of the line for a group with steps, and nothing for one without. -/
theorem finish_after_group {group : List ProgressCall} (h : .finish ∉ group) (written : String) :
    (after { isTerminal := true, written } group).finish =
      { isTerminal := true, written := written ++ ProgressCall.groupText group } := by
  rw [after_group h]
  cases group with
  | nil => simp [finish, ProgressCall.groupText]
  | cons call group => simp [finish, write, ProgressCall.groupText, String.append_assoc]

/-- A display on a terminal that is closed has shown the groups one after another. -/
theorem closed_after_terminal (calls : List ProgressCall) (written : String) :
    (after { isTerminal := true, written } calls).closed =
      written ++ String.join ((calls.splitOn .finish).map ProgressCall.groupText) := by
  by_cases h : .finish ∈ calls
  · obtain ⟨group, rest, rfl, hgroup⟩ := List.eq_append_cons_of_mem h
    -- The first finish ends the first group, and the display is as new behind it.
    have hfinish : ProgressCall.apply .finish (after { isTerminal := true, written } group) = _ :=
      finish_after_group hgroup written
    rw [after_append, after_cons, hfinish, closed_after_terminal rest,
      List.splitOn_append_cons_self_of_not_mem hgroup, List.map_cons, String.join_cons,
      String.append_assoc]
  · rw [closed, finish_after_group h, List.splitOn_eq_singleton h]
    simp
termination_by calls.length

/-- On a terminal the line waits for its end exactly if the last call is a step. -/
theorem isPending_after (calls : List ProgressCall) :
    (after { isTerminal := true } calls).isPending = calls.getLast?.any ProgressCall.isStep := by
  rcases List.eq_nil_or_concat calls with rfl | ⟨before, call, rfl⟩
  · rfl
  · have hterminal := (kind_after { isTerminal := true } before).1
    rw [List.concat_eq_append, after_append, List.getLast?_concat]
    cases call with
    | step glyph line =>
      change (step (after { isTerminal := true } before) glyph line).isPending = true
      simp only [step, hterminal, write, if_true]
      split_ifs <;> rfl
    | finish => exact isPending_finish _

/-! ## Other displays -/

/-- Away from terminals the steps are written line by line. -/
theorem after_lines (calls : List ProgressCall) (written : String) :
    after { isTerminal := false, written } calls =
      { isTerminal := false
        written := written ++ String.join (calls.map ProgressCall.lineText) } := by
  induction calls generalizing written with
  | nil => simp [after]
  | cons call calls ih =>
    have hcall : call.apply { isTerminal := false, written } =
        { isTerminal := false, written := written ++ call.lineText } := by
      cases call with
      | step glyph line => rfl
      | finish => simp [ProgressCall.apply, ProgressCall.lineText, finish]
    rw [after_cons, hcall, ih, List.map_cons, String.join_cons, String.append_assoc]

/-- A sink that refuses all writes keeps its text, and the display goes on as on any other sink. -/
theorem after_refused (progress : Progress) (written : String) (calls : List ProgressCall) :
    after { progress with acceptsText := false, written } calls =
      { progress.after calls with acceptsText := false, written } := by
  induction calls generalizing progress with
  | nil => rfl
  | cons call calls ih =>
    have hcall : call.apply { progress with acceptsText := false, written } =
        { call.apply progress with acceptsText := false, written } := by
      obtain ⟨isTerminal, acceptsText, isPending, old⟩ := progress
      cases call <;> cases isTerminal <;> cases acceptsText <;> cases isPending <;> rfl
    rw [after_cons, hcall, ih, after_cons]

/-- What a new display has shown after any calls.

On a terminal it has shown, once it is closed, a line for each group with steps, and nothing for the
others. A finish or the closing writes an end of a line exactly if the last call is a step, so that
neither does so twice. Elsewhere it has shown the line of every step, and neither a finish nor the
closing makes a difference. If all writes are refused, nothing is shown, and the display goes through
the same states as if none were. -/
theorem shows_groups (calls : List ProgressCall) :
    let terminal := after { isTerminal := true } calls
    let other := after { isTerminal := false } calls
    (terminal.closed = String.join ((calls.splitOn .finish).map ProgressCall.groupText) ∧
      terminal.closed =
        terminal.written ++ (if calls.getLast?.any ProgressCall.isStep then "\n" else "") ∧
      terminal.finish.finish = terminal.finish ∧ terminal.finish.closed = terminal.closed) ∧
    (other.written = String.join (calls.map ProgressCall.lineText) ∧
      other.finish = other ∧ other.closed = other.written) ∧
    ∀ isTerminal : Bool,
      let refused := after { isTerminal, acceptsText := false } calls
      refused = { after { isTerminal } calls with acceptsText := false, written := "" } ∧
        refused.closed = "" := by
  intro terminal other
  refine ⟨?_, ?_, ?_⟩
  · have haccepts : terminal.acceptsText = true := (kind_after { isTerminal := true } calls).2
    have hgroups := closed_after_terminal calls ""
    have hend := closed_eq haccepts
    rw [String.empty_append] at hgroups
    rw [isPending_after] at hend
    exact ⟨hgroups, hend, terminal.finish_finish, congrArg written terminal.finish_finish⟩
  · have hlines : other = _ := after_lines calls ""
    rw [hlines, String.empty_append]
    exact ⟨rfl, rfl, rfl⟩
  · intro isTerminal refused
    have hrefused : refused = _ := after_refused { isTerminal } "" calls
    refine ⟨hrefused, ?_⟩
    rw [hrefused, closed, finish]
    split_ifs <;> rfl

/-- Two groups, with a finish too many between them and none at the end. -/
example :
    (after { isTerminal := true }
      [.step "." "a", .step "." "b", .finish, .finish, .step ">" "c"]).closed = "..\n>\n" := by
  decide

end Progress

end RunMeter
