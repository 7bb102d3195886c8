import RunMeter.Probe
import RunMeter.Proofs.Number.Reading
import RunMeter.Proofs.Trace.ReportPatterns
import RunMeter.Trace.BuildLog

/-!
# Whole numbers in reports

A search takes the leftmost occurrence of its pattern, and the text around the number that is meant
may hold any other digits. Three of the patterns look for a number in front of a phrase
(`FindsBefore`). None of their occurrences begins before that number, unless the text there holds the
phrase itself or ends in the middle of a number (`FindsBefore.firstMatch_eq`). The fourth looks behind
a label, in which no second one can begin (`RssPlatform.firstMatch_afterLabel?`).

So the number is read as a whole or not at all: a number that is no word is no data, and not the digits
of it that would fit (`reports_read_whole_numbers`). The count of retired instructions is read through
every grouping of its digits (`Instructions.parse_grouped`).
-/

set_option autoImplicit false

namespace RunMeter

open RunMeter.Text RunMeter.Decimal

/-! ## Numbers in front of a phrase -/

/-- What a pattern recognises is a number, made of the characters of a class, and text without a digit
behind it that holds a phrase. -/
def FindsBefore (isMember : Char → Bool) (phrase : List Char)
    (pattern : List Char → Option (List Char)) : Prop :=
  ∀ {text number}, pattern text = some number → ∃ behind more,
    text = number ++ (behind ++ more) ∧ (∀ c ∈ number, isMember c = true) ∧
      (∀ c ∈ behind, isDecimalDigit c = false) ∧ phrase <:+: behind

namespace FindsBefore

variable {isMember : Char → Bool} {phrase : List Char} {pattern : List Char → Option (List Char)}

/-- What is recognised holds the phrase. -/
theorem isInfix (h : FindsBefore isMember phrase pattern) {text number : List Char}
    (hpattern : pattern text = some number) : phrase <:+: text := by
  obtain ⟨behind, more, rfl, -, -, hphrase⟩ := h hpattern
  exact hphrase.trans ⟨number, more, List.append_assoc _ _ _⟩

/-- Nothing is recognised from before a digit, if the text up to there does not hold the phrase and
does not end in the middle of a number. -/
theorem eq_none (h : FindsBefore isMember phrase pattern) {rest : List Char} (hne : rest ≠ [])
    (hphrase : ¬ phrase <:+: rest) (hends : EndsOutside isMember rest) {digit : Char}
    (hdigit : isDecimalDigit digit = true) (text : List Char) :
    pattern (rest ++ digit :: text) = none := by
  rw [Option.eq_none_iff_forall_ne_some]
  intro number hpattern
  obtain ⟨behind, more, heq, hnumber, hbehind, hholds⟩ := h hpattern
  rcases List.append_eq_append_iff.1 heq with ⟨between, rfl, -⟩ | ⟨between, rfl, htail⟩
  · -- The number would go on over the end of the text.
    obtain ⟨init, last, rfl⟩ := (List.eq_nil_or_concat' rest).resolve_left hne
    have hlast := hnumber last (by simp)
    cases hlast.symm.trans (hends init last rfl)
  · -- The phrase would have to end before the digit.
    have hnotMem : digit ∉ behind := by
      intro hmem
      cases hdigit.symm.trans (hbehind digit hmem)
    obtain ⟨left, rfl, -⟩ := exists_append_of_notMem hnotMem htail.symm
    exact hphrase (hholds.trans ⟨number, left, List.append_assoc _ _ _⟩)

/-- A number is found behind any text that does not hold the phrase and does not end in the middle of
a number. -/
theorem firstMatch_eq (h : FindsBefore isMember phrase pattern) {before : List Char}
    (hphrase : ¬ phrase <:+: before) (hends : EndsOutside isMember before)
    {isSeparator : Char → Bool} {number text found : List Char} (hnumber : IsCount isSeparator number)
    (hpattern : pattern (number ++ text) = some found) :
    firstMatch pattern (before ++ (number ++ text)) = some found := by
  obtain ⟨digit, more, rfl, hdigit, -⟩ := hnumber
  rw [firstMatch_append_of_none, firstMatch_of_some hpattern]
  intro rest hrest hne
  refine h.eq_none hne ?_ (hends.of_suffix hrest) hdigit (more ++ text)
  exact fun hholds => hphrase (hholds.trans hrest.isInfix)

/-- Without the phrase there is no number. -/
theorem firstMatch_eq_none (h : FindsBefore isMember phrase pattern) {text : List Char}
    (hphrase : ¬ phrase <:+: text) : firstMatch pattern text = none :=
  firstMatch_eq_none_of_not_isInfix h.isInfix hphrase

end FindsBefore

/-- A pattern of a count, white space and a word finds the count in front of the word. -/
theorem findsBefore_of_beginsWithCount {isSeparator isMember : Char → Bool} {word : List Char}
    {pattern : List Char → Option (List Char)} (hword : ∀ c ∈ word, isDecimalDigit c = false)
    (hmember : ∀ c, isDecimalDigit c = true ∨ isSeparator c = true → isMember c = true)
    (hpattern : ∀ {text count}, pattern text = some count ↔
      BeginsWithCount isSeparator word text count) : FindsBefore isMember word pattern := by
  intro text number h
  obtain ⟨gap, rest, rfl, hcount, hgap⟩ := hpattern.1 h
  refine ⟨gap ++ word, rest, ?_, ?_, ?_, List.infix_append_right⟩
  · rw [List.append_assoc]
  · exact fun c hc => hmember c (hcount.forall_mem c hc)
  · rw [List.forall_mem_append]
    exact ⟨fun c hc => isDecimalDigit_of_isBlank (hgap.blanks c hc), hword⟩

theorem isDecimalDigit_of_reads {digits : List Char} {n : Nat} (h : Reads digits n) :
    ∀ c ∈ digits, isDecimalDigit c = true :=
  fun c hc => isDecimalDigit_of_isDigit (h.2.1 c hc)

/-- The digits of a number are a count without separators. -/
theorem isCount_of_reads {digits : List Char} {n : Nat} (h : Reads digits n)
    (isSeparator : Char → Bool) : IsCount isSeparator digits := by
  obtain ⟨digit, more, rfl⟩ := List.exists_cons_of_ne_nil h.1
  have hdigits := List.forall_mem_cons.1 (isDecimalDigit_of_reads h)
  exact ⟨digit, more, rfl, hdigits.1, fun c hc => Or.inl (hdigits.2 c hc)⟩

/-! ## Peaks -/

namespace RssPlatform

/-- The text in front of the peak in kibibytes. -/
def kibibytePhrase : List Char := (kibibyteLabel ++ ": ").toList

/-- The phrase that marks a platform's peak. -/
def phrase : RssPlatform → List Char
  | .linux => kibibytePhrase
  | .macos => byteLabel.toList

theorem findsBefore_beforeLabel? : FindsBefore isDecimalDigit byteLabel.toList beforeLabel? :=
  findsBefore_of_beginsWithCount (by simp [byteLabel, isDecimalDigit_eq_isDigit])
    (fun _ h => h.resolve_right Bool.false_ne_true) beforeLabel?_eq_some_iff

/-- No second label begins inside the label. -/
theorem exists_kibibytePhrase_eq : ∃ more, kibibytePhrase = 'M' :: more ∧ 'M' ∉ more :=
  ⟨"aximum resident set size (kbytes): ".toList, by simp [kibibytePhrase, kibibyteLabel], by simp⟩

/-- The label is found behind any text that does not hold it, with all the digits behind it. -/
theorem firstMatch_afterLabel? {before digits after : List Char}
    (hphrase : ¬ kibibytePhrase <:+: before) (hne : digits ≠ [])
    (hdigits : ∀ c ∈ digits, isDecimalDigit c = true) (hstops : Stops isDecimalDigit after) :
    firstMatch afterLabel? (before ++ (kibibytePhrase ++ (digits ++ after))) = some digits := by
  rw [firstMatch_append_of_none]
  · exact firstMatch_of_some (afterLabel?_eq_some_iff.2 ⟨after, rfl, hne, hdigits, hstops⟩)
  · obtain ⟨more, hlabel, hmore⟩ := exists_kibibytePhrase_eq
    intro rest hrest hrestNe
    rw [Option.eq_none_iff_forall_ne_some]
    intro found hfound
    obtain ⟨behind, heq, -⟩ := afterLabel?_eq_some_iff.1 hfound
    change _ = kibibytePhrase ++ _ at heq
    obtain ⟨c, rest, rfl⟩ := List.exists_cons_of_ne_nil hrestNe
    rw [hlabel] at heq
    obtain ⟨rfl, htail⟩ := List.cons.inj heq
    obtain ⟨left, rfl, -⟩ := exists_append_of_notMem hmore htail
    have hholds : kibibytePhrase <:+: 'M' :: (more ++ left) := by
      rw [hlabel]
      exact (List.prefix_append ('M' :: more) left).isInfix
    exact hphrase (hholds.trans hrest.isInfix)

/-- A report without the phrase has no peak. -/
theorem parse_of_not_isInfix {platform : RssPlatform} {report : List Char}
    (h : ¬ platform.phrase <:+: report) : platform.parse report = .error (.noLine platform.label) := by
  have hnone : firstMatch platform.peak? report = none := by
    cases platform with
    | linux =>
      refine firstMatch_eq_none_of_not_isInfix (fun hpeak => ?_) h
      obtain ⟨rest, rfl, -⟩ := afterLabel?_eq_some_iff.1 hpeak
      exact (List.prefix_append _ _).isInfix
    | macos => exact findsBefore_beforeLabel?.firstMatch_eq_none h
  simp only [parse, readPeak, hnone]
  rfl

/-- The number of the digits found is the peak, if it is a word. -/
theorem parse_of_firstMatch {platform : RssPlatform} {report digits : List Char} {n : Nat}
    (hfound : firstMatch platform.peak? report = some digits) (hreads : Reads digits n) :
    platform.parse report = if n < 2 ^ 64 then .ok (platform.toMebibytes (UInt64.ofNat n))
      else .error (.unreadable platform.label .tooLarge) := by
  by_cases hword : n < 2 ^ 64
  · simp only [parse, readPeak, hfound, hreads.readWord_eq, if_pos hword]
    rfl
  · simp only [parse, readPeak, hfound, hreads.readWord_eq, if_neg hword]
    rfl

/-- The peak in kibibytes is the number behind its label, if no digit touches it. -/
theorem parse_kibibytes {before digits after : List Char} {n : Nat} (hreads : Reads digits n)
    (hphrase : ¬ kibibytePhrase <:+: before) (hstops : Stops isDecimalDigit after) :
    linux.parse (before ++ (kibibytePhrase ++ (digits ++ after))) =
      if n < 2 ^ 64 then .ok (linux.toMebibytes (UInt64.ofNat n))
      else .error (.unreadable kibibyteLabel .tooLarge) := by
  have hfound : firstMatch linux.peak? _ = _ :=
    firstMatch_afterLabel? hphrase hreads.1 (isDecimalDigit_of_reads hreads) hstops
  exact parse_of_firstMatch hfound hreads

/-- The peak in bytes is the number before its label, if no digit touches it. -/
theorem parse_bytes {before digits blanks : List Char} {n : Nat} (hreads : Reads digits n)
    (hphrase : ¬ byteLabel.toList <:+: before) (hends : EndsOutside isDecimalDigit before)
    (hne : blanks ≠ []) (hblanks : IsBlanks blanks) (after : List Char) :
    macos.parse (before ++ (digits ++ (blanks ++ (byteLabel.toList ++ after)))) =
      if n < 2 ^ 64 then .ok (macos.toMebibytes (UInt64.ofNat n))
      else .error (.unreadable byteLabel .tooLarge) := by
  have hcount := isCount_of_reads hreads fun _ => false
  have hhere : beforeLabel? (digits ++ (blanks ++ (byteLabel.toList ++ after))) = some digits :=
    beforeLabel?_eq_some_iff.2 ⟨blanks, after, rfl, hcount, hne, hblanks, nofun⟩
  have hfound : firstMatch macos.peak? _ = _ :=
    findsBefore_beforeLabel?.firstMatch_eq hphrase hends hcount hhere
  exact parse_of_firstMatch hfound hreads

end RssPlatform

/-! ## Methods in build logs -/

namespace BuildLog

/-- The text behind the count of methods. -/
def methodsPhrase : List Char := " method(s) included for runtime compilation".toList

/-- Digits and the phrase behind them are recognised as the count of methods. -/
theorem methods?_eq_some_iff {text digits : List Char} :
    methods? text = some digits ↔ ∃ rest, text = digits ++ (methodsPhrase ++ rest) ∧
      digits ≠ [] ∧ ∀ c ∈ digits, isDecimalDigit c = true := by
  unfold methods?
  constructor
  · intro h
    simp only [Option.bind_eq_bind, Option.bind_eq_some_iff] at h
    obtain ⟨⟨found, left⟩, hrun, rest, hphrase, heq⟩ := h
    cases heq
    obtain ⟨rfl, hne, hall, -⟩ := run?_eq_some_iff.1 hrun
    obtain rfl := after?_eq_some_iff.1 hphrase
    exact ⟨rest, rfl, hne, hall⟩
  · rintro ⟨rest, rfl, hne, hall⟩
    have hstops : Stops isDecimalDigit (methodsPhrase ++ rest) :=
      stops_cons (isDecimalDigit_of_isBlank (by decide)) _
    have hphrase : after? methodsPhrase (methodsPhrase ++ rest) = some rest :=
      after?_eq_some_iff.2 rfl
    rw [run?_eq_some_iff.2 ⟨rfl, hne, hall, hstops⟩]
    simp only [Option.bind_eq_bind, Option.bind_some]
    change (after? methodsPhrase _).bind _ = _
    rw [hphrase]
    rfl

theorem findsBefore_methods? : FindsBefore isDecimalDigit methodsPhrase methods? := by
  intro text digits h
  obtain ⟨rest, rfl, -, hall⟩ := methods?_eq_some_iff.1 h
  have hnone : methodsPhrase.any isDecimalDigit = false := by
    change " method(s) included for runtime compilation".toList.any isDecimalDigit = false
    simp [isDecimalDigit_eq_isDigit]
  have hphrase : ∀ c ∈ methodsPhrase, isDecimalDigit c = false :=
    fun c hc => Bool.eq_false_iff.2 (List.any_eq_false.1 hnone c hc)
  exact ⟨methodsPhrase, rest, rfl, hall, hphrase, List.infix_rfl⟩

/-- The number of the digits found is the count of methods, if it is a word. -/
theorem runtimeMethods?_of_firstMatch {log digits : List Char} {n : Nat}
    (hfound : firstMatch methods? log = some digits) (hreads : Reads digits n) :
    runtimeMethods? log = if n < 2 ^ 64 then some (UInt64.ofNat n) else none := by
  rw [runtimeMethods?, hfound, Option.bind_eq_bind, Option.bind_some, hreads.readWord_eq]
  by_cases hword : n < 2 ^ 64
  · rw [if_pos hword, if_pos hword]
    rfl
  · rw [if_neg hword, if_neg hword]
    rfl

/-- The count of methods is the number before its phrase, if no digit touches it. -/
theorem runtimeMethods?_eq {before digits : List Char} {n : Nat} (hreads : Reads digits n)
    (hphrase : ¬ methodsPhrase <:+: before) (hends : EndsOutside isDecimalDigit before)
    (after : List Char) :
    runtimeMethods? (before ++ (digits ++ (methodsPhrase ++ after))) =
      if n < 2 ^ 64 then some (UInt64.ofNat n) else none := by
  have hhere : methods? (digits ++ (methodsPhrase ++ after)) = some digits :=
    methods?_eq_some_iff.2 ⟨after, rfl, hreads.1, isDecimalDigit_of_reads hreads⟩
  have hcount := isCount_of_reads hreads fun _ => false
  exact runtimeMethods?_of_firstMatch
    (findsBefore_methods?.firstMatch_eq hphrase hends hcount hhere) hreads

end BuildLog

/-! ## Retired instructions -/

namespace Instructions

theorem findsBefore_count? :
    FindsBefore (fun c => isDecimalDigit c || isSeparator c) label.toList count? :=
  findsBefore_of_beginsWithCount (by simp [label, isDecimalDigit_eq_isDigit])
    (fun _ h => Bool.or_eq_true_iff.2 h) count?_eq_some_iff

/-- Digits with separators put in, any number of them and anywhere behind the first digit. -/
inductive Grouping (digits : List Char) : List Char → Prop
  | plain : Grouping digits digits
  | insert {before after : List Char} {separator : Char}
      (grouping : Grouping digits (before ++ after)) (hbefore : before ≠ [])
      (hseparator : isSeparator separator = true) :
      Grouping digits (before ++ separator :: after)

theorem isDigit_of_isSeparator {c : Char} (h : isSeparator c = true) : c.isDigit = false := by
  simp only [isSeparator, Bool.or_eq_true, beq_iff_eq] at h
  rcases h with ((rfl | rfl) | rfl) | rfl <;> decide

/-- Without its separators a grouping is the digits. -/
theorem Grouping.filter_isDigit {digits text : List Char} (h : Grouping digits text)
    (hdigits : ∀ c ∈ digits, c.isDigit = true) : text.filter Char.isDigit = digits := by
  induction h with
  | plain => exact List.filter_eq_self.2 hdigits
  | insert _ _ hseparator ih =>
    have hnot : ¬ Char.isDigit _ = true := Bool.not_eq_true _ ▸ isDigit_of_isSeparator hseparator
    rw [List.filter_append, List.filter_cons_of_neg hnot, ← List.filter_append]
    exact ih

/-- A grouping begins with a digit and goes on with digits and separators. -/
theorem Grouping.isCount {digits text : List Char} (h : Grouping digits text)
    (hdigits : IsCount isSeparator digits) : IsCount isSeparator text := by
  induction h with
  | plain => exact hdigits
  | @insert before after separator _ hbefore hseparator ih =>
    obtain ⟨c, before, rfl⟩ := List.exists_cons_of_ne_nil hbefore
    obtain ⟨digit, more, heq, hdigit, hmore⟩ := ih
    obtain ⟨rfl, rfl⟩ := List.cons.inj heq
    obtain ⟨hinit, hrest⟩ := List.forall_mem_append.1 hmore
    refine ⟨c, before ++ separator :: after, rfl, hdigit, ?_⟩
    exact List.forall_mem_append.2 ⟨hinit, List.forall_mem_cons.2 ⟨Or.inr hseparator, hrest⟩⟩

/-- A count found is read by its digits. -/
theorem parse_of_firstMatch {report found : List Char} {n : Nat}
    (hfound : firstMatch count? report = some found)
    (hreads : Reads (found.filter Char.isDigit) n) :
    parse report = if n < 2 ^ 64 then .ok (UInt64.ofNat n)
      else .error (.unreadableCount (String.ofList found) .tooLarge) := by
  by_cases hword : n < 2 ^ 64
  · simp only [parse, hfound, hreads.readWord_eq, if_pos hword]
  · simp only [parse, hfound, hreads.readWord_eq, if_neg hword]

/-- The count is read through every grouping of its digits, with any white space before the word and
any text around, as long as the text before does not hold the word itself and does not end in the
middle of a count. A count that is no word is a missing value, which names it with all its separators.
-/
theorem parse_grouped (n : Nat) {before grouped blanks : List Char} (after : List Char)
    (hgrouped : Grouping (Nat.toDigits 10 n) grouped) (hne : blanks ≠ []) (hblanks : IsBlanks blanks)
    (hword : ¬ label.toList <:+: before)
    (hends : EndsOutside (fun c => isDecimalDigit c || isSeparator c) before) :
    ∃ separators gap, blanks = separators ++ gap ∧ (∀ c ∈ separators, isSeparator c = true) ∧
      let absence := Absence.unreadableCount (String.ofList (grouped ++ separators)) .tooLarge
      (Probe.absent absence).kind = .missingPattern ∧
      parse (before ++ (grouped ++ (blanks ++ (label.toList ++ after)))) =
        if n < 2 ^ 64 then .ok (UInt64.ofNat n) else .error absence := by
  have hreads := reads_toDigits n
  obtain ⟨separators, gap, rfl, hseparators, hgap⟩ := exists_gap isSeparator hne hblanks
  have hcount : IsCount isSeparator (grouped ++ separators) :=
    (hgrouped.isCount (isCount_of_reads hreads isSeparator)).append hseparators
  have hhere : count? (grouped ++ ((separators ++ gap) ++ (label.toList ++ after))) =
      some (grouped ++ separators) := by
    refine count?_eq_some_iff.2 ⟨gap, after, ?_, hcount, hgap⟩
    simp only [List.append_assoc]
  have hfound : firstMatch count?
      (before ++ (grouped ++ ((separators ++ gap) ++ (label.toList ++ after)))) =
        some (grouped ++ separators) :=
    findsBefore_count?.firstMatch_eq hword hends
      (hgrouped.isCount (isCount_of_reads hreads isSeparator)) hhere
  have hfilter : (grouped ++ separators).filter Char.isDigit = Nat.toDigits 10 n := by
    rw [List.filter_append, hgrouped.filter_isDigit hreads.2.1, List.filter_eq_nil_iff.2,
      List.append_nil]
    intro c hc
    rw [isDigit_of_isSeparator (hseparators c hc)]
    exact Bool.false_ne_true
  refine ⟨separators, gap, rfl, hseparators, rfl, ?_⟩
  exact parse_of_firstMatch hfound (hfilter.symm ▸ hreads)

/-- Behind other numbers, a count with two kinds of separators and a narrow space before the blank. -/
theorem parse_grouped_behind_numbers :
    let before := "task 17 took 3,141 msec".toList ++ ['\n']
    let grouped := ['1', ',', '2', '3', '4', narrowSpace, '5', '6', '7']
    let blanks := [narrowSpace, ' ']
    Grouping (Nat.toDigits 10 1234567) grouped ∧ blanks ≠ [] ∧ IsBlanks blanks ∧
      ¬ label.toList <:+: before ∧
      EndsOutside (fun c => isDecimalDigit c || isSeparator c) before ∧
      parse (before ++ (grouped ++ (blanks ++ (label.toList ++ [':', 'u'])))) = .ok 1234567 := by
  intro before grouped blanks
  have hcomma : Grouping (Nat.toDigits 10 1234567) (['1'] ++ ',' :: ['2', '3', '4', '5', '6', '7']) :=
    .insert .plain (List.cons_ne_nil _ _) (by decide)
  have hgrouped : Grouping (Nat.toDigits 10 1234567)
      (['1', ',', '2', '3', '4'] ++ narrowSpace :: ['5', '6', '7']) :=
    .insert hcomma (List.cons_ne_nil _ _) (by decide)
  have hne : blanks ≠ [] := List.cons_ne_nil _ _
  have hblanks : IsBlanks blanks :=
    List.forall_mem_cons.2 ⟨by decide, List.forall_mem_singleton.2 (by decide)⟩
  have hword : ¬ label.toList <:+: before := by
    intro hholds
    have hmem : 'i' ∈ before := hholds.subset (by simp [label])
    simp [before] at hmem
  have hends : EndsOutside (fun c => isDecimalDigit c || isSeparator c) before :=
    endsOutside_concat (by simp [isSeparator, narrowSpace, isDecimalDigit_eq_isDigit]) _
  obtain ⟨separators, gap, -, -, -, hparse⟩ :=
    parse_grouped 1234567 [':', 'u'] hgrouped hne hblanks hword hends
  exact ⟨hgrouped, hne, hblanks, hword, hends, hparse.trans (if_pos (by decide))⟩

end Instructions

/-! ## All of the digits -/

/-- Numbers in reports are read whole or not at all. The peak in kibibytes stands behind its label, the
peak in bytes before white space and its label, the count of methods before its phrase. In any text
whose beginning does not hold the label or phrase, and in which no other digit touches the number, the
number is the value if it is a word, and otherwise there is no value. Nor is there one in a text
without the label or phrase. A peak that is absent is a missing pattern. -/
theorem reports_read_whole_numbers :
    (∀ (n : Nat) (before after : List Char),
      ¬ RssPlatform.kibibytePhrase <:+: before → Stops isDecimalDigit after →
        let digits := Nat.toDigits 10 n
        RssPlatform.linux.parse (before ++ (RssPlatform.kibibytePhrase ++ (digits ++ after))) =
          if n < 2 ^ 64 then .ok ((UInt64.ofNat n).toFloat / 1024.0)
          else .error (.unreadable RssPlatform.kibibyteLabel .tooLarge)) ∧
    (∀ (n : Nat) (before blanks after : List Char),
      ¬ RssPlatform.byteLabel.toList <:+: before → EndsOutside isDecimalDigit before →
      blanks ≠ [] → IsBlanks blanks →
        let label := RssPlatform.byteLabel.toList
        RssPlatform.macos.parse
            (before ++ (Nat.toDigits 10 n ++ (blanks ++ (label ++ after)))) =
          if n < 2 ^ 64 then .ok ((UInt64.ofNat n).toFloat / 1024.0 / 1024.0)
          else .error (.unreadable RssPlatform.byteLabel .tooLarge)) ∧
    (∀ (n : Nat) (before after : List Char),
      ¬ BuildLog.methodsPhrase <:+: before → EndsOutside isDecimalDigit before →
        let digits := Nat.toDigits 10 n
        BuildLog.runtimeMethods? (before ++ (digits ++ (BuildLog.methodsPhrase ++ after))) =
          if n < 2 ^ 64 then some (UInt64.ofNat n) else none) ∧
    (∀ (platform : RssPlatform) (text : List Char), ¬ platform.phrase <:+: text →
      platform.parse text = .error (.noLine platform.label)) ∧
    (∀ text : List Char, ¬ BuildLog.methodsPhrase <:+: text →
      BuildLog.runtimeMethods? text = none) ∧
    ∀ absence, (Probe.absent absence).kind = .missingPattern := by
  refine ⟨?_, ?_, ?_, ?_, ?_, fun _ => rfl⟩
  · intro n before after hphrase hstops digits
    exact RssPlatform.parse_kibibytes (reads_toDigits n) hphrase hstops
  · intro n before blanks after hphrase hends hne hblanks label
    exact RssPlatform.parse_bytes (reads_toDigits n) hphrase hends hne hblanks after
  · intro n before after hphrase hends digits
    exact BuildLog.runtimeMethods?_eq (reads_toDigits n) hphrase hends after
  · exact fun platform text h => RssPlatform.parse_of_not_isInfix h
  · intro text h
    rw [BuildLog.runtimeMethods?, BuildLog.findsBefore_methods?.firstMatch_eq_none h]
    rfl

/-- A report of bytes behind a line with other numbers, and a count of methods that is no word. -/
theorem reports_read_peak_behind_numbers :
    let before := "  0.05 real   0.02 user".toList ++ ['\n']
    let report := before ++
      (Nat.toDigits 10 10485760 ++ ([' ', ' '] ++ (RssPlatform.byteLabel.toList ++ ['\n'])))
    ¬ RssPlatform.byteLabel.toList <:+: before ∧ EndsOutside isDecimalDigit before ∧
      ¬ BuildLog.methodsPhrase <:+: before ∧ ¬ RssPlatform.kibibytePhrase <:+: report ∧
      RssPlatform.macos.parse report = .ok 10.0 ∧
      RssPlatform.linux.parse report = .error (.noLine RssPlatform.kibibyteLabel) ∧
      BuildLog.runtimeMethods?
        (before ++ (Nat.toDigits 10 (2 ^ 64) ++ (BuildLog.methodsPhrase ++ []))) = none := by
  intro before report
  obtain ⟨-, hbytes, hmethods, hmissing, -, -⟩ := reports_read_whole_numbers
  have hletter : 'm' ∉ before := by simp [before]
  have hlabel : ¬ RssPlatform.byteLabel.toList <:+: before :=
    fun hholds => hletter (hholds.subset (by simp [RssPlatform.byteLabel]))
  have hphrase : ¬ BuildLog.methodsPhrase <:+: before :=
    fun hholds => hletter (hholds.subset (List.mem_cons_of_mem _ List.mem_cons_self))
  have hends : EndsOutside isDecimalDigit before :=
    endsOutside_concat (by simp [isDecimalDigit_eq_isDigit]) _
  have hreport : ¬ RssPlatform.kibibytePhrase <:+: report := by
    intro hholds
    have hmem : 'M' ∈ report :=
      hholds.subset (by simp [RssPlatform.kibibytePhrase, RssPlatform.kibibyteLabel])
    have hdigit : 'M' ∈ Nat.toDigits 10 10485760 := by
      simpa [report, before, RssPlatform.byteLabel] using hmem
    cases (reads_toDigits 10485760).2.1 'M' hdigit
  have hblanks : IsBlanks [' ', ' '] :=
    List.forall_mem_cons.2 ⟨by decide, List.forall_mem_singleton.2 (by decide)⟩
  refine ⟨hlabel, hends, hphrase, hreport, ?_, hmissing .linux report hreport, ?_⟩
  · have hmebibytes : (UInt64.ofNat 10485760).toFloat / 1024.0 / 1024.0 = 10.0 := by decide +kernel
    rw [← hmebibytes]
    exact (hbytes 10485760 before [' ', ' '] ['\n'] hlabel hends (List.cons_ne_nil _ _)
      hblanks).trans (if_pos (by decide))
  · exact (hmethods (2 ^ 64) before [] hphrase hends).trans (if_neg (Nat.lt_irrefl _))

end RunMeter
