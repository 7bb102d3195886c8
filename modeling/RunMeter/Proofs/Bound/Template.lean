import Mathlib.Data.List.Basic
import RunMeter.Bound.Command
import RunMeter.Proofs.Number.Reading
import RunMeter.Proofs.Text.Matching

/-!
# Templates

A template consists of pieces with a placeholder between each two of them, and filling it in puts the
value in the place of the placeholders (`fillTemplate_eq_intercalate`). A placeholder holds the
character that it begins with only once, so two placeholders never overlap and there is one way to cut
a template (`isCut_iff`).

Two values between the same pieces make texts of different lengths, unless they are equally long, and
then the texts differ where the first value stands. So the value can be told from a template that has
a place for it (`fillTemplate_injective`).
-/

set_option autoImplicit false

namespace RunMeter

open RunMeter.Text

/-- Pieces without a placeholder that make up a template with placeholders between them. -/
structure IsCut (template : List Char) (pieces : List (List Char)) : Prop where
  pieces_ne_nil : pieces ≠ []
  intercalate_eq : placeholder.intercalate pieces = template
  notMem_pieces : ∀ piece ∈ pieces, ¬ placeholder <:+: piece

/-- The pieces of a template, from the left. -/
def templatePieces : List Char → List (List Char)
  | '\x7b' :: 'b' :: 'o' :: 'u' :: 'n' :: 'd' :: '\x7d' :: rest => [] :: templatePieces rest
  | c :: rest => (templatePieces rest).modifyHead (c :: ·)
  | [] => [[]]

/-- A template begins with a placeholder or with a character that begins none. -/
@[elab_as_elim]
theorem template_induction {motive : List Char → Prop} (nil : motive [])
    (place : ∀ rest, motive rest → motive (placeholder ++ rest))
    (cons : ∀ c rest, ¬ placeholder <+: c :: rest → motive rest → motive (c :: rest))
    (template : List Char) : motive template := by
  induction template using templatePieces.induct with
  | case1 rest ih => exact place rest ih
  | case2 c rest hother ih =>
    refine cons c rest ?_ ih
    rintro ⟨behind, heq⟩
    obtain ⟨rfl, rfl⟩ := List.cons.inj heq
    exact hother behind rfl rfl
  | case3 => exact nil

theorem templatePieces_cons {c : Char} {rest : List Char} (h : ¬ placeholder <+: c :: rest) :
    templatePieces (c :: rest) = (templatePieces rest).modifyHead (c :: ·) := by
  rw [templatePieces]
  rintro behind rfl rfl
  exact h ⟨behind, rfl⟩

theorem fillTemplate_cons {value : List Char} {c : Char} {rest : List Char}
    (h : ¬ placeholder <+: c :: rest) :
    fillTemplate value (c :: rest) = c :: fillTemplate value rest := by
  rw [fillTemplate]
  rintro behind rfl rfl
  exact h ⟨behind, rfl⟩

theorem templatePieces_placeholder (rest : List Char) :
    templatePieces (placeholder ++ rest) = [] :: templatePieces rest := rfl

theorem fillTemplate_placeholder (value rest : List Char) :
    fillTemplate value (placeholder ++ rest) = value ++ fillTemplate value rest := rfl

theorem templatePieces_ne_nil (template : List Char) : templatePieces template ≠ [] := by
  induction template using template_induction with
  | nil => exact List.cons_ne_nil _ _
  | place rest ih => exact List.cons_ne_nil _ _
  | cons c rest hfirst ih =>
    rw [templatePieces_cons hfirst]
    simpa using ih

/-- Filling in puts the value between the pieces. -/
theorem fillTemplate_eq_intercalate (value template : List Char) :
    fillTemplate value template = value.intercalate (templatePieces template) := by
  induction template using template_induction with
  | nil => rfl
  | place rest ih =>
    obtain ⟨piece, pieces, hpieces⟩ := List.exists_cons_of_ne_nil (templatePieces_ne_nil rest)
    rw [fillTemplate_placeholder, templatePieces_placeholder, ih, hpieces,
      List.intercalate_cons_cons, List.nil_append]
  | cons c rest hfirst ih =>
    obtain ⟨piece, pieces, hpieces⟩ := List.exists_cons_of_ne_nil (templatePieces_ne_nil rest)
    rw [fillTemplate_cons hfirst, templatePieces_cons hfirst, ih, hpieces, List.modifyHead_cons,
      List.intercalate_cons_cons_left]

/-- A template is filled in with placeholders as it stands. -/
theorem fillTemplate_self (template : List Char) : fillTemplate placeholder template = template := by
  induction template using template_induction with
  | nil => rfl
  | place rest ih => rw [fillTemplate_placeholder, ih]
  | cons c rest hfirst ih => rw [fillTemplate_cons hfirst, ih]

theorem isCut_templatePieces (template : List Char) : IsCut template (templatePieces template) where
  pieces_ne_nil := templatePieces_ne_nil template
  intercalate_eq := by rw [← fillTemplate_eq_intercalate, fillTemplate_self]
  notMem_pieces := by
    induction template using template_induction with
    | nil =>
      intro piece hpiece hin
      rw [List.mem_singleton.1 hpiece, List.infix_nil] at hin
      cases hin
    | place rest ih =>
      rw [templatePieces_placeholder, List.forall_mem_cons, List.infix_nil]
      exact ⟨List.cons_ne_nil _ _, ih⟩
    | cons c rest hfirst ih =>
      obtain ⟨piece, pieces, hpieces⟩ := List.exists_cons_of_ne_nil (templatePieces_ne_nil rest)
      rw [hpieces, List.forall_mem_cons] at ih
      rw [templatePieces_cons hfirst, hpieces, List.modifyHead_cons, List.forall_mem_cons,
        List.infix_cons_iff, not_or]
      refine ⟨⟨?_, ih.1⟩, ih.2⟩
      -- The first piece is the beginning of the template.
      intro hbegins
      have hrest : piece <+: rest := by
        rw [← fillTemplate_self rest, fillTemplate_eq_intercalate, hpieces]
        cases pieces with
        | nil => simp
        | cons next pieces =>
          rw [List.intercalate_cons_cons, List.append_assoc]
          exact List.prefix_append piece _
      exact hfirst (hbegins.trans ((List.prefix_cons_inj c).2 hrest))

/-- A placeholder that begins in front of another one ends there too. -/
theorem not_begins_append_placeholder {front : List Char} (hne : front ≠ [])
    (h : ¬ placeholder <:+: front) (rest : List Char) :
    ¬ placeholder <+: front ++ (placeholder ++ rest) := by
  obtain ⟨c, front, rfl⟩ := List.exists_cons_of_ne_nil hne
  have hlater : '\x7b' ∉ placeholder.tail := by decide
  rintro ⟨behind, heq⟩
  obtain ⟨hhead, htail⟩ := List.cons.inj heq
  obtain ⟨between, rfl, -⟩ := exists_append_of_notMem hlater htail.symm
  rw [← hhead] at h
  exact h ⟨[], between, rfl⟩

/-- A piece goes up to the first placeholder. -/
theorem templatePieces_append {piece : List Char} (h : ¬ placeholder <:+: piece)
    (rest : List Char) :
    templatePieces (piece ++ (placeholder ++ rest)) = piece :: templatePieces rest := by
  induction piece with
  | nil => rfl
  | cons c piece ih =>
    have hfirst := not_begins_append_placeholder (List.cons_ne_nil c piece) h rest
    have hpiece : ¬ placeholder <:+: piece := fun hin => h (List.infix_cons hin)
    rw [List.cons_append] at hfirst ⊢
    rw [templatePieces_cons hfirst, ih hpiece, List.modifyHead_cons]

theorem templatePieces_of_notMem {piece : List Char} (h : ¬ placeholder <:+: piece) :
    templatePieces piece = [piece] := by
  induction piece with
  | nil => rfl
  | cons c piece ih =>
    have hfirst : ¬ placeholder <+: c :: piece := fun hbegins => h hbegins.isInfix
    have hpiece : ¬ placeholder <:+: piece := fun hin => h (List.infix_cons hin)
    rw [templatePieces_cons hfirst, ih hpiece, List.modifyHead_cons]

/-- There is one way to cut a template. -/
theorem isCut_iff {template : List Char} {pieces : List (List Char)} :
    IsCut template pieces ↔ pieces = templatePieces template := by
  constructor
  · rintro ⟨hne, rfl, hpieces⟩
    induction pieces with
    | nil => exact absurd rfl hne
    | cons piece pieces ih =>
      rw [List.forall_mem_cons] at hpieces
      cases pieces with
      | nil => rw [List.intercalate_singleton, templatePieces_of_notMem hpieces.1]
      | cons next pieces =>
        rw [List.intercalate_cons_cons, List.append_assoc, templatePieces_append hpieces.1,
          ← ih (List.cons_ne_nil _ _) hpieces.2]
  · rintro rfl
    exact isCut_templatePieces template

/-! ## Telling the value from the filled-in template -/

theorem length_intercalate {α : Type} (separator piece : List α) (pieces : List (List α)) :
    (separator.intercalate (piece :: pieces)).length =
      (piece :: pieces).flatten.length + pieces.length * separator.length := by
  induction pieces generalizing piece with
  | nil => simp
  | cons next pieces ih =>
    rw [List.intercalate_cons_cons, List.length_append, List.length_append, ih,
      @List.flatten_cons _ piece, List.length_append, List.length_cons, Nat.succ_mul]
    omega

/-- What stands between two or more pieces can be told from the whole. -/
theorem intercalate_left_injective {α : Type} (first second : List α) (rest : List (List α)) :
    Function.Injective fun separator : List α => separator.intercalate (first :: second :: rest) := by
  intro separator other heq
  have hlength : separator.length = other.length := by
    have hlengths := congrArg List.length heq
    simp only [length_intercalate] at hlengths
    have hproducts : (second :: rest).length * separator.length =
        (second :: rest).length * other.length := by omega
    exact Nat.eq_of_mul_eq_mul_left (Nat.succ_pos _) hproducts
  simp only [List.intercalate_cons_cons, List.append_assoc] at heq
  exact (List.append_inj (List.append_cancel_left heq) hlength).1

/-- A template with a place for a value has two pieces at least. -/
theorem exists_templatePieces {template : List Char} (h : placeholder <:+: template) :
    ∃ first second rest, templatePieces template = first :: second :: rest := by
  obtain ⟨hne, hcut, hfree⟩ := isCut_templatePieces template
  match hpieces : templatePieces template with
  | [] => exact absurd hpieces hne
  | [piece] =>
    rw [hpieces] at hcut hfree
    rw [List.intercalate_singleton] at hcut
    rw [← hcut] at h
    exact absurd h (hfree piece List.mem_cons_self)
  | first :: second :: rest => exact ⟨first, second, rest, rfl⟩

theorem fillTemplate_injective {template : List Char} (h : placeholder <:+: template) :
    Function.Injective fun value => fillTemplate value template := by
  obtain ⟨first, second, rest, hpieces⟩ := exists_templatePieces h
  intro value other heq
  simp only [fillTemplate_eq_intercalate, hpieces] at heq
  exact intercalate_left_injective first second rest heq

/-- Nothing is filled in where there is no place for it. -/
theorem fillTemplate_of_notMem {template : List Char} (h : ¬ placeholder <:+: template)
    (value : List Char) : fillTemplate value template = template := by
  rw [fillTemplate_eq_intercalate, templatePieces_of_notMem h, List.intercalate_singleton]

end RunMeter
