import Mathlib.Data.List.Basic
import Mathlib.Data.List.TakeWhile
import RunMeter.Text.Blank
import RunMeter.Text.Digit
import RunMeter.Text.Match

/-!
# What patterns find

A run of characters of a class is told by what it is and what follows it (`run?_eq_some_iff`), and a
search for a pattern fails just if no rest of the text begins with it (`firstMatch_eq_none_iff`);
otherwise it finds what the pattern captures where it begins first (`firstMatch_eq_some_iff`). The
classes that the patterns use do not meet: white space holds no digit.
-/

set_option autoImplicit false

namespace RunMeter.Text

/-! ## Texts behind one another -/

/-- A text that goes on with `x` behind `known`, which has no `x`, begins with all of `known`. -/
theorem exists_append_of_notMem {x : Char} {known behind text rest : List Char} (h : x ∉ known)
    (heq : text ++ x :: rest = known ++ behind) :
    ∃ between, text = known ++ between ∧ behind = between ++ x :: rest := by
  rcases List.append_eq_append_iff.1 heq with ⟨between, rfl, htail⟩ | ⟨between, rfl, hbehind⟩
  · cases between with
    | nil => exact ⟨[], (List.append_nil _).symm ▸ (List.append_nil _).symm, htail.symm⟩
    | cons c between =>
      obtain ⟨rfl, -⟩ := List.cons.inj htail
      exact absurd (List.mem_append_right text List.mem_cons_self) h
  · exact ⟨between, rfl, hbehind⟩

/-! ## Runs -/

/-- What follows a run does not begin with a character of its class. -/
def Stops (isMember : Char → Bool) (rest : List Char) : Prop :=
  ∀ c more, rest = c :: more → isMember c = false

theorem stops_cons {isMember : Char → Bool} {c : Char} (h : isMember c = false)
    (rest : List Char) : Stops isMember (c :: rest) := by
  rintro _ _ ⟨⟩
  exact h

theorem takeWhile_of_stops {isMember : Char → Bool} {rest : List Char}
    (h : Stops isMember rest) : rest.takeWhile isMember = [] := by
  cases rest with
  | nil => rfl
  | cons c rest => rw [List.takeWhile_cons, if_neg (Bool.not_eq_true _ ▸ h c rest rfl)]

theorem dropWhile_of_stops {isMember : Char → Bool} {rest : List Char}
    (h : Stops isMember rest) : rest.dropWhile isMember = rest := by
  cases rest with
  | nil => rfl
  | cons c rest => rw [List.dropWhile_cons, if_neg (Bool.not_eq_true _ ▸ h c rest rfl)]

theorem stops_dropWhile (isMember : Char → Bool) (text : List Char) :
    Stops isMember (text.dropWhile isMember) := by
  intro c more heq
  have hhead := List.head?_dropWhile_not isMember text
  rw [heq] at hhead
  exact hhead

/-- A text does not end with a character of a class. -/
def EndsOutside (isMember : Char → Bool) (text : List Char) : Prop :=
  ∀ init last, text = init ++ [last] → isMember last = false

theorem endsOutside_concat {isMember : Char → Bool} {c : Char} (h : isMember c = false)
    (init : List Char) : EndsOutside isMember (init ++ [c]) := by
  intro other last heq
  obtain ⟨-, hlast⟩ := List.append_inj' heq rfl
  rw [← (List.cons.inj hlast).1]
  exact h

/-- The rest of a text ends as the text does. -/
theorem EndsOutside.of_suffix {isMember : Char → Bool} {text rest : List Char}
    (h : EndsOutside isMember text) (hrest : rest <:+ text) : EndsOutside isMember rest := by
  obtain ⟨before, rfl⟩ := hrest
  rintro init last rfl
  exact h (before ++ init) last (List.append_assoc _ _ _).symm

/-- A run is all there is of its class at the start of a text, and it is not empty. -/
theorem run?_eq_some_iff {isMember : Char → Bool} {text run rest : List Char} :
    run? isMember text = some (run, rest) ↔
      text = run ++ rest ∧ run ≠ [] ∧ (∀ c ∈ run, isMember c = true) ∧ Stops isMember rest := by
  have hrun : run? isMember text = some (run, rest) ↔
      run ≠ [] ∧ text.takeWhile isMember = run ∧ text.dropWhile isMember = rest := by
    unfold run?
    cases text.takeWhile isMember with
    | nil =>
      constructor
      · intro h
        cases h
      · rintro ⟨hne, rfl, -⟩
        exact absurd rfl hne
    | cons c found =>
      constructor
      · intro h
        cases h
        exact ⟨List.cons_ne_nil _ _, rfl, rfl⟩
      · rintro ⟨-, rfl, rfl⟩
        rfl
  rw [hrun]
  constructor
  · rintro ⟨hne, rfl, rfl⟩
    refine ⟨List.takeWhile_append_dropWhile.symm, hne, ?_, stops_dropWhile isMember text⟩
    exact fun c hc => List.mem_takeWhile_imp hc
  · rintro ⟨rfl, hne, hall, hstops⟩
    refine ⟨hne, ?_, ?_⟩
    · rw [List.takeWhile_append_of_pos hall, takeWhile_of_stops hstops, List.append_nil]
    · rw [List.dropWhile_append_of_pos hall, dropWhile_of_stops hstops]

/-- There is no run just where a text begins with another character. -/
theorem run?_eq_none_iff {isMember : Char → Bool} {text : List Char} :
    run? isMember text = none ↔ Stops isMember text := by
  cases hrun : run? isMember text with
  | none =>
    refine iff_of_true rfl ?_
    rintro c more rfl
    unfold run? at hrun
    by_contra hmember
    rw [Bool.not_eq_false] at hmember
    rw [List.takeWhile_cons, if_pos hmember] at hrun
    cases hrun
  | some found =>
    obtain ⟨run, rest⟩ := found
    obtain ⟨rfl, hne, hall, -⟩ := run?_eq_some_iff.1 hrun
    refine iff_of_false (Option.some_ne_none _) ?_
    intro hstops
    cases run with
    | nil => exact hne rfl
    | cons c run =>
      have hout := hstops c (run ++ rest) rfl
      rw [hall c List.mem_cons_self] at hout
      cases hout

/-! ## Searches -/

variable {α : Type} {pattern : List Char → Option α}

theorem firstMatch_of_some {text : List Char} {capture : α} (h : pattern text = some capture) :
    firstMatch pattern text = some capture := by
  cases text with
  | nil => exact h
  | cons c text => rw [firstMatch, h]

theorem firstMatch_of_none {c : Char} {text : List Char} (h : pattern (c :: text) = none) :
    firstMatch pattern (c :: text) = firstMatch pattern text := by
  rw [firstMatch, h]

/-- A search passes over a part of the text in which the pattern begins nowhere. -/
theorem firstMatch_append_of_none {before text : List Char}
    (h : ∀ rest, rest <:+ before → rest ≠ [] → pattern (rest ++ text) = none) :
    firstMatch pattern (before ++ text) = firstMatch pattern text := by
  induction before with
  | nil => rfl
  | cons c before ih =>
    have hhere : pattern (c :: (before ++ text)) = none :=
      h (c :: before) (List.suffix_refl _) (List.cons_ne_nil _ _)
    rw [List.cons_append, firstMatch_of_none hhere]
    exact ih fun rest hrest => h rest (hrest.trans (List.suffix_cons c before))

/-- A search fails just if the pattern begins nowhere. -/
theorem firstMatch_eq_none_iff {text : List Char} :
    firstMatch pattern text = none ↔ ∀ rest, rest <:+ text → pattern rest = none := by
  induction text with
  | nil =>
    constructor
    · intro h rest hrest
      rw [List.suffix_nil.1 hrest]
      exact h
    · intro h
      exact h [] (List.suffix_refl [])
  | cons c text ih =>
    cases hpattern : pattern (c :: text) with
    | some capture =>
      rw [firstMatch_of_some hpattern]
      refine iff_of_false (Option.some_ne_none _) ?_
      intro h
      cases hpattern.symm.trans (h _ (List.suffix_refl _))
    | none =>
      rw [firstMatch_of_none hpattern, ih]
      constructor
      · intro h rest hrest
        rcases List.suffix_cons_iff.1 hrest with rfl | hrest
        · exact hpattern
        · exact h rest hrest
      · intro h rest hrest
        exact h rest (hrest.trans (List.suffix_cons c text))

/-- A search succeeds just if the pattern begins somewhere. -/
theorem firstMatch_ne_none_iff {text : List Char} :
    firstMatch pattern text ≠ none ↔
      ∃ rest, rest <:+ text ∧ ∃ capture, pattern rest = some capture := by
  rw [ne_eq, firstMatch_eq_none_iff]
  push Not
  simp only [ne_eq, Option.eq_none_iff_forall_ne_some]
  push Not
  rfl

/-- A search finds what the pattern captures where it begins first. -/
theorem firstMatch_eq_some_iff {text : List Char} {capture : α} :
    firstMatch pattern text = some capture ↔
      ∃ skipped rest, text = skipped ++ rest ∧ pattern rest = some capture ∧
        ∀ earlier later, text = earlier ++ later → earlier.length < skipped.length →
          pattern later = none := by
  induction text with
  | nil =>
    constructor
    · exact fun h => ⟨[], [], rfl, h, nofun⟩
    · rintro ⟨skipped, rest, heq, hcapture, -⟩
      rw [← (List.append_eq_nil_iff.1 heq.symm).2]
      exact firstMatch_of_some hcapture
  | cons c text ih =>
    cases hpattern : pattern (c :: text) with
    | some found =>
      rw [firstMatch_of_some hpattern]
      constructor
      · rintro ⟨⟩
        exact ⟨[], c :: text, rfl, hpattern, nofun⟩
      · rintro ⟨skipped, rest, heq, hcapture, hfirst⟩
        cases skipped with
        | nil =>
          obtain rfl : c :: text = rest := heq
          exact hpattern.symm.trans hcapture
        | cons d skipped =>
          cases hpattern.symm.trans (hfirst [] (c :: text) rfl (Nat.succ_pos _))
    | none =>
      rw [firstMatch_of_none hpattern, ih]
      constructor
      · rintro ⟨skipped, rest, rfl, hcapture, hfirst⟩
        refine ⟨c :: skipped, rest, rfl, hcapture, ?_⟩
        intro earlier later heq hlt
        cases earlier with
        | nil =>
          obtain rfl : c :: (skipped ++ rest) = later := heq
          exact hpattern
        | cons d earlier =>
          exact hfirst earlier later (List.cons.inj heq).2 (Nat.lt_of_succ_lt_succ hlt)
      · rintro ⟨skipped, rest, heq, hcapture, hfirst⟩
        cases skipped with
        | nil =>
          obtain rfl : c :: text = rest := heq
          cases hpattern.symm.trans hcapture
        | cons d skipped =>
          obtain ⟨rfl, rfl⟩ := List.cons.inj heq
          refine ⟨skipped, rest, rfl, hcapture, ?_⟩
          intro earlier later hsame hlt
          exact hfirst (c :: earlier) later (congrArg (c :: ·) hsame) (Nat.succ_lt_succ hlt)

/-- A text without a phrase that is part of every occurrence of the pattern has none. -/
theorem firstMatch_eq_none_of_not_isInfix {phrase text : List Char}
    (hphrase : ∀ {rest capture}, pattern rest = some capture → phrase <:+: rest)
    (h : ¬ phrase <:+: text) : firstMatch pattern text = none := by
  rw [firstMatch_eq_none_iff]
  intro rest hrest
  rw [Option.eq_none_iff_forall_ne_some]
  exact fun capture hcapture => h ((hphrase hcapture).trans hrest.isInfix)

/-! ## Classes -/

/-- The code points of white space. -/
def blankPoints : List Nat :=
  [0x09, 0x0a, 0x0b, 0x0c, 0x0d, 0x20, 0x85, 0xa0, 0x1680, 0x2000, 0x2001, 0x2002, 0x2003, 0x2004,
    0x2005, 0x2006, 0x2007, 0x2008, 0x2009, 0x200a, 0x2028, 0x2029, 0x202f, 0x205f, 0x3000]

theorem toNat_mem_blankPoints {c : Char} (h : isBlank c = true) : c.toNat ∈ blankPoints := by
  simp only [isBlank, Bool.or_eq_true, Bool.and_eq_true, decide_eq_true_eq, beq_iff_eq] at h
  simp only [blankPoints, List.mem_cons, List.not_mem_nil, or_false]
  omega

/-- The ASCII digits are decimal digits. -/
theorem isDecimalDigit_of_isDigit {c : Char} (h : c.isDigit = true) : isDecimalDigit c = true := by
  rw [Char.isDigit_iff_toNat] at h
  have hzero : (0x0030 ≤ c.toNat && c.toNat < 0x0030 + 10) = true := by
    rw [Bool.and_eq_true, decide_eq_true_iff, decide_eq_true_iff]
    exact ⟨h.1, Nat.lt_succ_of_le h.2⟩
  rw [isDecimalDigit, Array.any_eq_true]
  exact ⟨0, by decide, hzero⟩

/-- ASCII has no decimal digits but its own. -/
theorem isDecimalDigit_eq_isDigit {c : Char} (h : c.toNat < 128) :
    isDecimalDigit c = c.isDigit := by
  have hzeros : ∀ start ∈ decimalZeros.toList, start = 0x0030 ∨ 128 ≤ start := by decide
  rw [Bool.eq_iff_iff]
  refine ⟨fun hdigit => ?_, isDecimalDigit_of_isDigit⟩
  rw [isDecimalDigit, Array.any_eq_true'] at hdigit
  obtain ⟨start, hmem, hrange⟩ := hdigit
  rw [Bool.and_eq_true, decide_eq_true_iff, decide_eq_true_iff] at hrange
  have hstart := hzeros start hmem.val
  rw [Char.isDigit_iff_toNat]
  simp only [Char.reduceToNat]
  omega

theorem isDecimalDigit_of_isBlank {c : Char} (h : isBlank c = true) : isDecimalDigit c = false := by
  have hnone : ∀ n ∈ blankPoints,
      (decimalZeros.any fun start => start ≤ n && n < start + 10) = false := by
    decide +kernel
  exact hnone c.toNat (toNat_mem_blankPoints h)

theorem isBlank_of_isDigit {c : Char} (h : c.isDigit = true) : isBlank c = false := by
  by_contra hblank
  rw [Bool.not_eq_false] at hblank
  have hdigit := isDecimalDigit_of_isDigit h
  rw [isDecimalDigit_of_isBlank hblank] at hdigit
  cases hdigit

/-! ## Trimming -/

/-- Behind white space, only the end of a text is left to be trimmed. -/
theorem trim_append_of_stops {before after : List Char} (hbefore : ∀ c ∈ before, isBlank c = true)
    (hafter : Stops isBlank after) : trim (before ++ after) = trimEnd after := by
  rw [trim, List.dropWhile_append_of_pos hbefore, dropWhile_of_stops hafter]

/-- Only what stands behind a character other than white space is trimmed off with the end. -/
theorem trimEnd_append_cons {c : Char} (h : isBlank c = false) (before after : List Char) :
    trimEnd (before ++ c :: after) = before ++ c :: trimEnd after := by
  have hreverse : (before ++ c :: after).reverse = after.reverse ++ c :: before.reverse := by simp
  have hstay : (c :: before.reverse).dropWhile isBlank = c :: before.reverse :=
    dropWhile_of_stops (stops_cons h before.reverse)
  rw [trimEnd, trimEnd, hreverse, List.dropWhile_append]
  cases after.reverse.dropWhile isBlank with
  | nil =>
    rw [List.isEmpty_nil, if_pos rfl, hstay]
    simp
  | cons d left => simp

/-- The end of a text is trimmed of all its white space. -/
theorem exists_trimEnd (text : List Char) :
    ∃ after, text = trimEnd text ++ after ∧ (∀ c ∈ after, isBlank c = true) ∧
      EndsOutside isBlank (trimEnd text) := by
  refine ⟨(text.reverse.takeWhile isBlank).reverse, ?_, ?_, ?_⟩
  · rw [trimEnd, ← List.reverse_append, List.takeWhile_append_dropWhile, List.reverse_reverse]
  · exact fun c hc => List.mem_takeWhile_imp (List.mem_reverse.1 hc)
  · intro init last heq
    have hreverse := congrArg List.reverse heq
    rw [trimEnd, List.reverse_reverse, List.reverse_append] at hreverse
    exact stops_dropWhile isBlank text.reverse last init.reverse hreverse

/-- A text is trimmed of all the white space at its ends, and of nothing else. -/
theorem exists_trim (text : List Char) :
    ∃ before after, text = before ++ (trim text ++ after) ∧ (∀ c ∈ before, isBlank c = true) ∧
      (∀ c ∈ after, isBlank c = true) ∧ Stops isBlank (trim text) ∧
      EndsOutside isBlank (trim text) := by
  obtain ⟨after, hafter, hblank, hends⟩ := exists_trimEnd (text.dropWhile isBlank)
  refine ⟨text.takeWhile isBlank, after, ?_, fun c hc => List.mem_takeWhile_imp hc, hblank, ?_, hends⟩
  · rw [trim, ← hafter, List.takeWhile_append_dropWhile]
  · intro c more heq
    change trimEnd (text.dropWhile isBlank) = _ at heq
    rw [heq] at hafter
    exact stops_dropWhile isBlank text c _ hafter

/-- There is nothing to trim off a text without white space. -/
theorem trim_of_forall_not_isBlank {text : List Char} (h : ∀ c ∈ text, isBlank c = false) :
    trim text = text := by
  have hstops : ∀ rest : List Char, (∀ c ∈ rest, isBlank c = false) → Stops isBlank rest := by
    rintro _ hrest c more rfl
    exact hrest c List.mem_cons_self
  have hreverse : ∀ c ∈ text.reverse, isBlank c = false :=
    fun c hc => h c (List.mem_reverse.1 hc)
  rw [trim, trimEnd, dropWhile_of_stops (hstops text h), dropWhile_of_stops (hstops _ hreverse),
    List.reverse_reverse]

end RunMeter.Text
