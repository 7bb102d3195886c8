/-!
# Finding a pattern in a text

A pattern is a function that recognises it at the start of a text and returns what it captured.
`firstMatch` tries it at every position from the left, so that the leftmost occurrence wins; a
pattern that takes maximal runs (`takeWhile`) is then the usual leftmost, greedy search. Literal
text inside a pattern is removed by `after?`.
-/

set_option autoImplicit false

namespace RunMeter.Text

/-- What follows `literal` in a text that starts with it. -/
def after? : (literal text : List Char) → Option (List Char)
  | [], text => some text
  | _ :: _, [] => none
  | l :: literal, c :: text => if l = c then after? literal text else none

theorem after?_eq_some_iff {literal text rest : List Char} :
    after? literal text = some rest ↔ text = literal ++ rest := by
  induction literal generalizing text with
  | nil => simp [after?, eq_comm]
  | cons l literal ih =>
    cases text with
    | nil => simp [after?]
    | cons c text =>
      by_cases h : l = c
      · subst h; simp [after?, ih]
      · simp [after?, h, Ne.symm h]

/-- The capture of `pattern` at the leftmost position where it is recognised. -/
def firstMatch {α : Type} (pattern : List Char → Option α) : List Char → Option α
  | [] => pattern []
  | c :: rest =>
    match pattern (c :: rest) with
    | some capture => some capture
    | none => firstMatch pattern rest

/-- Whether `literal` occurs somewhere in `text`. -/
def contains (literal text : List Char) : Bool := (firstMatch (after? literal) text).isSome

theorem isSome_after?_iff {literal text : List Char} :
    (after? literal text).isSome = true ↔ literal <+: text := by
  rw [Option.isSome_iff_exists]
  constructor
  · rintro ⟨rest, h⟩
    exact ⟨rest, (after?_eq_some_iff.1 h).symm⟩
  · rintro ⟨rest, h⟩
    exact ⟨rest, after?_eq_some_iff.2 h.symm⟩

theorem contains_iff_isInfix {literal text : List Char} :
    contains literal text = true ↔ literal <:+: text := by
  unfold contains
  induction text with
  | nil => rw [firstMatch, isSome_after?_iff, List.prefix_nil, List.infix_nil]
  | cons c text ih =>
    rw [firstMatch, List.infix_cons_iff, ← ih, ← isSome_after?_iff]
    cases after? literal (c :: text) with
    | none => simp
    | some rest => simp

/-- A run of at least one character of a class, and what follows its end. -/
def run? (isMember : Char → Bool) (text : List Char) : Option (List Char × List Char) :=
  match text.takeWhile isMember with
  | [] => none
  | run => some (run, text.dropWhile isMember)

end RunMeter.Text
