import RunMeter.Proofs.Text.Matching
import RunMeter.Trace.Instructions
import RunMeter.Trace.Residence

/-!
# The patterns of tool reports

Two of the patterns find a count in front of a word, with white space between them: the peak in bytes
and the retired instructions, whose count may be grouped. They differ in the word and in the
characters that group digits, and `BeginsWithCount` says for both what a text begins with that is
recognised (`RssPlatform.beforeLabel?_eq_some_iff`, `Instructions.count?_eq_some_iff`). A separator
may be white space as well; then it is part of the count, unless it is all that stands before the
word. The third pattern finds digits behind a label (`RssPlatform.afterLabel?_eq_some_iff`).

Where in a text a count begins does not matter for whether it holds one: `HoldsCount` says so without
the choice between separators and white space (`exists_beginsWithCount_iff`).
-/

set_option autoImplicit false

namespace RunMeter

open RunMeter.Text

/-- A digit and more digits, with separators among them. -/
def IsCount (isSeparator : Char → Bool) (count : List Char) : Prop :=
  ∃ digit more, count = digit :: more ∧ isDecimalDigit digit = true ∧
    ∀ c ∈ more, isDecimalDigit c = true ∨ isSeparator c = true

/-- White space. -/
def IsBlanks (blanks : List Char) : Prop := ∀ c ∈ blanks, isBlank c = true

/-- The white space behind a count. It begins with a separator only if there is nothing else. -/
structure IsGap (isSeparator : Char → Bool) (gap : List Char) : Prop where
  ne_nil : gap ≠ []
  blanks : IsBlanks gap
  alone : ∀ c more, gap = c :: more → isSeparator c = true → more = []

/-- A text begins with a count, a gap and a word. -/
def BeginsWithCount (isSeparator : Char → Bool) (word text count : List Char) : Prop :=
  ∃ gap rest, text = count ++ (gap ++ (word ++ rest)) ∧ IsCount isSeparator count ∧
    IsGap isSeparator gap

/-- A word and the separators of the counts before it, which it has no part in. It stands on one
line. -/
structure IsReportWord (isSeparator : Char → Bool) (word : List Char) : Prop where
  exists_letter : ∃ letter rest, word = letter :: rest ∧ isDecimalDigit letter = false ∧
    isSeparator letter = false ∧ isBlank letter = false
  lineFeed_notMem : '\n' ∉ word
  isSeparator_lineFeed : isSeparator '\n' = false

theorem IsCount.ne_nil {isSeparator : Char → Bool} {count : List Char}
    (h : IsCount isSeparator count) : count ≠ [] := by
  obtain ⟨digit, more, rfl, -, -⟩ := h
  exact List.cons_ne_nil _ _

/-- The characters of a count are digits and separators. -/
theorem IsCount.forall_mem {isSeparator : Char → Bool} {count : List Char}
    (h : IsCount isSeparator count) :
    ∀ c ∈ count, isDecimalDigit c = true ∨ isSeparator c = true := by
  obtain ⟨digit, more, rfl, hdigit, hmore⟩ := h
  exact List.forall_mem_cons.2 ⟨Or.inl hdigit, hmore⟩

/-- Separators at its end are part of a count. -/
theorem IsCount.append {isSeparator : Char → Bool} {count separators : List Char}
    (h : IsCount isSeparator count) (hseparators : ∀ c ∈ separators, isSeparator c = true) :
    IsCount isSeparator (count ++ separators) := by
  obtain ⟨digit, more, rfl, hdigit, hmore⟩ := h
  refine ⟨digit, more ++ separators, rfl, hdigit, ?_⟩
  intro c hc
  rcases List.mem_append.1 hc with hc | hc
  · exact hmore c hc
  · exact Or.inr (hseparators c hc)

/-- A word does not continue the white space before it. -/
theorem IsReportWord.stops_isBlank {isSeparator : Char → Bool} {word : List Char}
    (h : IsReportWord isSeparator word) (rest : List Char) : Stops isBlank (word ++ rest) := by
  obtain ⟨letter, more, rfl, -, -, hblank⟩ := h.exists_letter
  exact stops_cons hblank (more ++ rest)

/-- White space does not continue the digits before it. -/
theorem IsGap.stops_isDecimalDigit {isSeparator : Char → Bool} {gap : List Char}
    (h : IsGap isSeparator gap) (rest : List Char) : Stops isDecimalDigit (gap ++ rest) := by
  cases gap with
  | nil => exact absurd rfl h.ne_nil
  | cons c more =>
    exact stops_cons (isDecimalDigit_of_isBlank (h.blanks c List.mem_cons_self)) (more ++ rest)

/-! ## Anywhere in a text -/

/-- Somewhere in a text a count, white space and a word stand one after another. -/
def HoldsCount (isSeparator : Char → Bool) (word text : List Char) : Prop :=
  ∃ before count blanks after, text = before ++ (count ++ (blanks ++ (word ++ after))) ∧
    IsCount isSeparator count ∧ blanks ≠ [] ∧ IsBlanks blanks

/-- White space behind a count is separators, which are part of the count, and a gap. -/
theorem exists_gap (isSeparator : Char → Bool) {blanks : List Char} (hne : blanks ≠ [])
    (hblanks : IsBlanks blanks) : ∃ separators gap, blanks = separators ++ gap ∧
      (∀ c ∈ separators, isSeparator c = true) ∧ IsGap isSeparator gap := by
  induction blanks with
  | nil => exact absurd rfl hne
  | cons c rest ih =>
    by_cases hseparator : isSeparator c = true ∧ rest ≠ []
    · obtain ⟨separators, gap, rfl, hall, hgap⟩ :=
        ih hseparator.2 (List.forall_mem_cons.1 hblanks).2
      exact ⟨c :: separators, gap, rfl, List.forall_mem_cons.2 ⟨hseparator.1, hall⟩, hgap⟩
    · refine ⟨[], c :: rest, rfl, nofun, List.cons_ne_nil _ _, hblanks, ?_⟩
      rintro _ _ ⟨⟩ hfirst
      by_contra hrest
      exact hseparator ⟨hfirst, hrest⟩

/-- A text holds a count before the word just if some rest of it begins with one. -/
theorem exists_beginsWithCount_iff {isSeparator : Char → Bool} {word text : List Char} :
    (∃ rest, rest <:+ text ∧ ∃ count, BeginsWithCount isSeparator word rest count) ↔
      HoldsCount isSeparator word text := by
  constructor
  · rintro ⟨_, ⟨before, rfl⟩, count, gap, after, rfl, hcount, hgap⟩
    exact ⟨before, count, gap, after, rfl, hcount, hgap.ne_nil, hgap.blanks⟩
  · rintro ⟨before, count, blanks, after, rfl, hcount, hne, hblanks⟩
    obtain ⟨separators, gap, rfl, hseparators, hgap⟩ := exists_gap isSeparator hne hblanks
    refine ⟨_, List.suffix_append _ _, count ++ separators, gap, after, ?_,
      hcount.append hseparators, hgap⟩
    simp only [List.append_assoc]

/-! ## Recognising -/

namespace RssPlatform

/-- The peak in bytes is digits only, so that nothing separates them. -/
theorem isReportWord_byteLabel : IsReportWord (fun _ => false) byteLabel.toList where
  exists_letter := by simp [byteLabel, isDecimalDigit_eq_isDigit, isBlank]
  lineFeed_notMem := by simp [byteLabel]
  isSeparator_lineFeed := rfl

/-- Digits and a word behind them are recognised as the peak in bytes. -/
theorem beforeLabel?_eq_some_iff {text digits : List Char} :
    beforeLabel? text = some digits ↔
      BeginsWithCount (fun _ => false) byteLabel.toList text digits := by
  unfold beforeLabel?
  constructor
  · intro h
    simp only [Option.bind_eq_bind, Option.bind_eq_some_iff] at h
    obtain ⟨⟨found, left⟩, hdigits, ⟨blanks, behind⟩, hblanks, rest, hlabel, heq⟩ := h
    obtain rfl : found = digits := Option.some.inj heq
    obtain ⟨rfl, hne, hall, -⟩ := run?_eq_some_iff.1 hdigits
    obtain ⟨rfl, hsome, hblank, -⟩ := run?_eq_some_iff.1 hblanks
    obtain rfl := after?_eq_some_iff.1 hlabel
    refine ⟨blanks, rest, rfl, ?_, hsome, hblank, fun _ _ _ hseparator => nomatch hseparator⟩
    cases found with
    | nil => exact absurd rfl hne
    | cons digit more =>
      rw [List.forall_mem_cons] at hall
      exact ⟨digit, more, rfl, hall.1, fun c hc => Or.inl (hall.2 c hc)⟩
  · rintro ⟨gap, rest, rfl, hcount, hgap⟩
    have hall : ∀ c ∈ digits, isDecimalDigit c = true := by
      intro c hc
      rcases hcount.forall_mem c hc with hdigit | hseparator
      · exact hdigit
      · cases hseparator
    have hdigits := run?_eq_some_iff.2
      ⟨rfl, hcount.ne_nil, hall, hgap.stops_isDecimalDigit (byteLabel.toList ++ rest)⟩
    have hblanks := run?_eq_some_iff.2
      ⟨rfl, hgap.ne_nil, hgap.blanks, isReportWord_byteLabel.stops_isBlank rest⟩
    have hlabel : after? byteLabel.toList (byteLabel.toList ++ rest) = some rest :=
      after?_eq_some_iff.2 rfl
    simp only [hdigits, hblanks, hlabel, Option.bind_eq_bind, Option.bind_some]

/-- Digits behind the label are recognised as the peak in kibibytes, all of them. -/
theorem afterLabel?_eq_some_iff {text digits : List Char} :
    afterLabel? text = some digits ↔ ∃ rest, text = (kibibyteLabel ++ ": ").toList ++
      (digits ++ rest) ∧ digits ≠ [] ∧ (∀ c ∈ digits, isDecimalDigit c = true) ∧
        Stops isDecimalDigit rest := by
  unfold afterLabel?
  constructor
  · intro h
    simp only [Option.bind_eq_bind, Option.bind_eq_some_iff] at h
    obtain ⟨rest, hlabel, ⟨found, left⟩, hrun, heq⟩ := h
    cases heq
    obtain ⟨rfl, hne, hall, hstops⟩ := run?_eq_some_iff.1 hrun
    exact ⟨left, after?_eq_some_iff.1 hlabel, hne, hall, hstops⟩
  · rintro ⟨rest, rfl, hne, hall, hstops⟩
    rw [after?_eq_some_iff.2 rfl, Option.bind_eq_bind, Option.bind_some,
      run?_eq_some_iff.2 ⟨rfl, hne, hall, hstops⟩]
    rfl

end RssPlatform

namespace Instructions

theorem isReportWord_label : IsReportWord isSeparator label.toList where
  exists_letter := by simp [label, isDecimalDigit_eq_isDigit, isSeparator, narrowSpace, isBlank]
  lineFeed_notMem := by simp [label]
  isSeparator_lineFeed := by decide

/-- The narrow space is the only separator that is white space. -/
theorem eq_narrowSpace_of_isSeparator {c : Char} (hseparator : isSeparator c = true)
    (hblank : isBlank c = true) : c = narrowSpace := by
  simp only [isSeparator, Bool.or_eq_true, beq_iff_eq] at hseparator
  rcases hseparator with ((rfl | rfl) | rfl) | rfl
  · revert hblank
    decide
  · revert hblank
    decide
  · revert hblank
    decide
  · rfl

/-- The class of characters that a count is a run of. -/
theorem run?_count {count rest : List Char} (hcount : IsCount isSeparator count)
    (hdigit : Stops isDecimalDigit rest) (hseparator : Stops isSeparator rest) :
    run? (fun c => isDecimalDigit c || isSeparator c) (count ++ rest) = some (count, rest) := by
  rw [run?_eq_some_iff]
  refine ⟨rfl, hcount.ne_nil, ?_, ?_⟩
  · intro c hc
    rw [Bool.or_eq_true]
    exact hcount.forall_mem c hc
  · intro c more heq
    dsimp only
    rw [hdigit c more heq, hseparator c more heq]
    rfl

/-- White space that begins with no separator ends the count. -/
theorem count?_of_stops {count gap : List Char} (hcount : IsCount isSeparator count)
    (hgap : IsGap isSeparator gap) {rest : List Char}
    (hstops : Stops isSeparator (gap ++ (label.toList ++ rest))) :
    count? (count ++ (gap ++ (label.toList ++ rest))) = some count := by
  have hrun := run?_count hcount (hgap.stops_isDecimalDigit (label.toList ++ rest)) hstops
  have hblanks := run?_eq_some_iff.2
    ⟨rfl, hgap.ne_nil, hgap.blanks, isReportWord_label.stops_isBlank rest⟩
  have hlabel : after? label.toList (label.toList ++ rest) = some rest := after?_eq_some_iff.2 rfl
  obtain ⟨digit, more, rfl, hdigit, -⟩ := hcount
  unfold count?
  rw [hrun, List.cons_append, List.head?_cons]
  simp only [Option.bind_eq_bind, Option.bind_some, hdigit, if_true, hblanks, hlabel]

/-- A narrow space before the word is taken for a separator first, and then given back. -/
theorem count?_of_narrowSpace {count : List Char} (hcount : IsCount isSeparator count)
    (rest : List Char) :
    count? (count ++ ([narrowSpace] ++ (label.toList ++ rest))) = some count := by
  obtain ⟨letter, more, hword, hdigit, hseparator, -⟩ := isReportWord_label.exists_letter
  have hrun : run? (fun c => isDecimalDigit c || isSeparator c)
      ((count ++ [narrowSpace]) ++ (label.toList ++ rest)) =
        some (count ++ [narrowSpace], label.toList ++ rest) := by
    have hlonger : IsCount isSeparator (count ++ [narrowSpace]) :=
      hcount.append (List.forall_mem_singleton.2 rfl)
    rw [hword]
    exact run?_count hlonger (stops_cons hdigit _) (stops_cons hseparator _)
  have hblanks := run?_eq_none_iff.2 (isReportWord_label.stops_isBlank rest)
  have hlabel : after? label.toList (label.toList ++ rest) = some rest := after?_eq_some_iff.2 rfl
  obtain ⟨digit, more, rfl, hdigit, -⟩ := hcount
  unfold count?
  rw [← List.append_assoc, hrun, List.cons_append, List.cons_append, List.head?_cons]
  simp only [Option.bind_eq_bind, Option.bind_some, hdigit, if_true, hblanks, hlabel,
    ← List.cons_append, List.getLast?_concat, BEq.rfl, List.dropLast_concat]

/-- A count that ends in a narrow space with the word right behind it is recognised without it. -/
theorem beginsWithCount_dropLast {first : Char} {more : List Char}
    (hdigit : isDecimalDigit first = true)
    (hmore : ∀ c ∈ more, isDecimalDigit c = true ∨ isSeparator c = true)
    (hlast : (first :: more).getLast? = some narrowSpace) (rest : List Char) :
    BeginsWithCount isSeparator label.toList (first :: more ++ (label.toList ++ rest))
      (first :: more).dropLast := by
  obtain ⟨init, hinit⟩ := List.getLast?_eq_some_iff.1 hlast
  cases init with
  | nil =>
    rw [(List.cons.inj hinit).1, isDecimalDigit_of_isBlank (by decide)] at hdigit
    cases hdigit
  | cons c init =>
    rw [List.cons_append] at hinit
    obtain ⟨rfl, rfl⟩ := List.cons.inj hinit
    rw [List.forall_mem_append] at hmore
    rw [hinit, ← List.cons_append, List.dropLast_concat, List.append_assoc]
    refine ⟨[narrowSpace], rest, rfl, ⟨first, init, rfl, hdigit, hmore.1⟩, List.cons_ne_nil _ _,
      List.forall_mem_singleton.2 (by decide), ?_⟩
    rintro c more ⟨⟩ -
    rfl

/-- A count and the word behind it are recognised, the count with its separators. -/
theorem count?_eq_some_iff {text count : List Char} :
    count? text = some count ↔ BeginsWithCount isSeparator label.toList text count := by
  constructor
  · intro h
    unfold count? at h
    simp only [Option.bind_eq_bind, Option.bind_eq_some_iff] at h
    obtain ⟨first, hfirst, h⟩ := h
    split at h
    · next hdigit =>
      obtain ⟨⟨found, left⟩, hrun, hbehind⟩ := Option.bind_eq_some_iff.1 h
      obtain ⟨rfl, hne, hall, hstops⟩ := run?_eq_some_iff.1 hrun
      obtain ⟨c, more, rfl⟩ := List.exists_cons_of_ne_nil hne
      obtain rfl : c = first := Option.some.inj hfirst
      simp only [Bool.or_eq_true, List.forall_mem_cons] at hall
      dsimp only at hbehind
      cases hblanks : run? isBlank left with
      | some split =>
        obtain ⟨gap, behind⟩ := split
        rw [hblanks] at hbehind
        obtain ⟨rest, hlabel, heq⟩ := Option.bind_eq_some_iff.1 hbehind
        obtain rfl := Option.some.inj heq
        obtain ⟨rfl, hgap, hblank, -⟩ := run?_eq_some_iff.1 hblanks
        obtain rfl := after?_eq_some_iff.1 hlabel
        refine ⟨gap, rest, rfl, ⟨c, more, rfl, hdigit, hall.2⟩, hgap, hblank, ?_⟩
        -- The run has taken all separators, so that the white space begins with none.
        rintro separator others rfl hseparator
        have hout := hstops separator _ rfl
        dsimp only at hout
        rw [hseparator, Bool.or_true] at hout
        cases hout
      | none =>
        rw [hblanks] at hbehind
        dsimp only at hbehind
        split at hbehind
        · next hlast =>
          obtain ⟨rest, hlabel, heq⟩ := Option.bind_eq_some_iff.1 hbehind
          obtain rfl := Option.some.inj heq
          obtain rfl := after?_eq_some_iff.1 hlabel
          exact beginsWithCount_dropLast hdigit hall.2 (beq_iff_eq.1 hlast) rest
        · cases hbehind
    · cases h
  · rintro ⟨gap, rest, rfl, hcount, hgap⟩
    obtain ⟨c, more, rfl⟩ := List.exists_cons_of_ne_nil hgap.ne_nil
    cases hseparator : isSeparator c with
    | true =>
      obtain rfl := hgap.alone c more rfl hseparator
      obtain rfl := eq_narrowSpace_of_isSeparator hseparator (hgap.blanks c List.mem_cons_self)
      exact count?_of_narrowSpace hcount rest
    | false => exact count?_of_stops hcount hgap (stops_cons hseparator _)

/-- A narrow space stands among the digits as a separator, and another one before the word. -/
example : count? "1\u202F234\u202Finstructions".toList = some "1\u202F234".toList := by
  decide +kernel

end Instructions

end RunMeter
