import RunMeter.Probe
import RunMeter.Proofs.Trace.ReportPatterns

/-!
# A report behind other output

A tool writes its report to the stream that the program has written to before, and a probe takes the
leftmost number that it finds there. So the program decides the value if its own output holds such a
number (`Probe.Shows`), and else only where a count at the end of its output meets the word at the
beginning of the report, since white space between the two may go over the end of a line
(`Probe.Joins`). Otherwise the report alone decides: `Probe.extract_behind_output`.

What all three patterns have in common is that they go on over the end of a line in one way at most
(`BreaksAtLineEnds`), and the search is followed for any pattern of this kind.
-/

set_option autoImplicit false

namespace RunMeter

open RunMeter.Text

/-! ## Searching over the end of a line -/

variable {pattern : List Char → Option (List Char)} {opens : List Char → List Char → Prop}
  {continues : List Char → Prop}

/-- How a pattern reads a text in which a line ends. What it recognises before the end, it recognises
there. Else it goes on in one way: a text that opens a capture, and nothing but that, is before the
end, and a text that continues it is behind. -/
structure BreaksAtLineEnds (pattern : List Char → Option (List Char))
    (opens : List Char → List Char → Prop) (continues : List Char → Prop) : Prop where
  keeps : ∀ {text count} rest, pattern text = some count →
    pattern (text ++ '\n' :: rest) = some count
  crosses : ∀ {text} rest count, pattern text = none →
    (pattern (text ++ '\n' :: rest) = some count ↔ opens text count ∧ continues rest)
  closed : ∀ {text count}, opens text count → firstMatch pattern text = none
  lineEnd : ∀ rest, pattern ('\n' :: rest) = none

namespace BreaksAtLineEnds

variable (law : BreaksAtLineEnds pattern opens continues)

include law

/-- What is found before the end of a line is found first. -/
theorem firstMatch_of_found {output : List Char} {count : List Char}
    (h : firstMatch pattern output = some count) (report : List Char) :
    firstMatch pattern (output ++ '\n' :: report) = some count := by
  induction output with
  | nil =>
    have hkept := law.keeps report h
    rw [List.nil_append, law.lineEnd report] at hkept
    cases hkept
  | cons c output ih =>
    cases hpattern : pattern (c :: output) with
    | some found =>
      rw [firstMatch_of_some hpattern] at h
      cases h
      exact firstMatch_of_some (law.keeps report hpattern)
    | none =>
      have hnone : pattern (c :: (output ++ '\n' :: report)) = none := by
        rw [Option.eq_none_iff_forall_ne_some]
        intro found hfound
        have hopens := ((law.crosses report found hpattern).1 hfound).1
        cases h.symm.trans (law.closed hopens)
      rw [firstMatch_of_none hpattern] at h
      rw [List.cons_append, firstMatch_of_none hnone]
      exact ih h

/-- Where nothing is found before the end of a line and nothing goes on over it, it is as if the text
began there. -/
theorem firstMatch_of_not_joined {output report : List Char}
    (hnone : firstMatch pattern output = none)
    (hjoined : ¬ ((∃ rest, rest <:+ output ∧ ∃ count, opens rest count) ∧ continues report)) :
    firstMatch pattern (output ++ '\n' :: report) = firstMatch pattern report := by
  have hstep : ∀ rest, rest <:+ output → pattern (rest ++ '\n' :: report) = none := by
    intro rest hrest
    rw [Option.eq_none_iff_forall_ne_some]
    intro count hcount
    obtain ⟨hopens, hcontinues⟩ :=
      (law.crosses report count (firstMatch_eq_none_iff.1 hnone rest hrest)).1 hcount
    exact hjoined ⟨⟨rest, hrest, count, hopens⟩, hcontinues⟩
  rw [firstMatch_append_of_none fun rest hrest _ => hstep rest hrest]
  exact firstMatch_of_none (law.lineEnd report)

/-- Where a capture is opened before the end of a line, it does not matter what continues it. -/
theorem firstMatch_of_joined {output : List Char} (hnone : firstMatch pattern output = none)
    (hopened : ∃ rest, rest <:+ output ∧ ∃ count, opens rest count) {report other : List Char}
    (hreport : continues report) (hother : continues other) :
    firstMatch pattern (output ++ '\n' :: report) =
      firstMatch pattern (output ++ '\n' :: other) := by
  have hgoesOn : ∀ {more}, continues more → ∀ rest, rest <:+ output → ∀ count,
      pattern (rest ++ '\n' :: more) = some count ↔ opens rest count := by
    intro more hmore rest hrest count
    rw [law.crosses more count (firstMatch_eq_none_iff.1 hnone rest hrest)]
    exact and_iff_left hmore
  clear hnone
  induction output with
  | nil =>
    obtain ⟨rest, hrest, count, hopens⟩ := hopened
    have hcount := (hgoesOn hreport rest hrest count).2 hopens
    rw [List.suffix_nil.1 hrest, List.nil_append, law.lineEnd report] at hcount
    cases hcount
  | cons c output ih =>
    have hhere := fun {more} (hmore : continues more) => hgoesOn hmore _ (List.suffix_refl _)
    cases hpattern : pattern (c :: output ++ '\n' :: report) with
    | some count =>
      have hother := (hhere hother count).2 ((hhere hreport count).1 hpattern)
      exact (firstMatch_of_some hpattern).trans (firstMatch_of_some hother).symm
    | none =>
      have hclosed : ∀ count, ¬ opens (c :: output) count := by
        intro count hopens
        cases hpattern.symm.trans ((hhere hreport count).2 hopens)
      have hotherNone : pattern (c :: output ++ '\n' :: other) = none := by
        rw [Option.eq_none_iff_forall_ne_some]
        exact fun count hcount => hclosed count ((hhere hother count).1 hcount)
      have hlater : ∃ rest, rest <:+ output ∧ ∃ count, opens rest count := by
        obtain ⟨rest, hrest, count, hopens⟩ := hopened
        rcases List.suffix_cons_iff.1 hrest with rfl | hrest
        · exact absurd hopens (hclosed count)
        · exact ⟨rest, hrest, count, hopens⟩
      have hrest := ih hlater fun hmore rest hrest =>
        hgoesOn hmore rest (hrest.trans (List.suffix_cons c output))
      exact (firstMatch_of_none hpattern).trans (hrest.trans (firstMatch_of_none hotherNone).symm)

end BreaksAtLineEnds

/-! ## Where patterns go on over the end of a line -/

theorem isDecimalDigit_lineFeed : isDecimalDigit '\n' = false :=
  isDecimalDigit_eq_isDigit (by decide)

/-- A count and white space, which ends the count. -/
def OpensCount (isSeparator : Char → Bool) (text count : List Char) : Prop :=
  ∃ blanks, text = count ++ blanks ∧ IsCount isSeparator count ∧ IsBlanks blanks ∧
    Stops isSeparator blanks

/-- A text ends with a count, or with a count and white space. -/
def EndsWithCount (isSeparator : Char → Bool) (text : List Char) : Prop :=
  ∃ before count blanks, text = before ++ (count ++ blanks) ∧ IsCount isSeparator count ∧
    IsBlanks blanks

/-- A text begins with a word, or with white space and a word. -/
def BeginsWithWord (word text : List Char) : Prop :=
  ∃ blanks after, text = blanks ++ (word ++ after) ∧ IsBlanks blanks

/-- Some rest of a text opens a capture just if the text ends with a count. -/
theorem exists_opensCount_iff {isSeparator : Char → Bool} {text : List Char} :
    (∃ rest, rest <:+ text ∧ ∃ count, OpensCount isSeparator rest count) ↔
      EndsWithCount isSeparator text := by
  constructor
  · rintro ⟨_, ⟨before, rfl⟩, count, blanks, rfl, hcount, hblanks, -⟩
    exact ⟨before, count, blanks, rfl, hcount, hblanks⟩
  · rintro ⟨before, count, blanks, rfl, hcount, hblanks⟩
    -- White space that is a separator as well belongs to the count.
    refine ⟨_, List.suffix_append _ _, count ++ blanks.takeWhile isSeparator,
      blanks.dropWhile isSeparator, ?_, ?_, ?_, stops_dropWhile isSeparator blanks⟩
    · rw [List.append_assoc, List.takeWhile_append_dropWhile]
    · exact hcount.append fun c hc => List.mem_takeWhile_imp hc
    · exact fun c hc => hblanks c ((List.dropWhile_suffix _).subset hc)

section

variable {isSeparator : Char → Bool} {word : List Char}

theorem IsCount.lineFeed_notMem {count : List Char} (h : IsCount isSeparator count)
    (hlineFeed : isSeparator '\n' = false) : '\n' ∉ count := by
  intro hmem
  rcases h.forall_mem '\n' hmem with hdigit | hseparator
  · cases isDecimalDigit_lineFeed.symm.trans hdigit
  · cases hlineFeed.symm.trans hseparator

theorem beginsWithWord_iff (hword : IsReportWord isSeparator word) {text : List Char} :
    BeginsWithWord word text ↔ word <+: text.dropWhile isBlank := by
  constructor
  · rintro ⟨blanks, after, rfl, hblanks⟩
    rw [List.dropWhile_append_of_pos hblanks, dropWhile_of_stops (hword.stops_isBlank after)]
    exact List.prefix_append word after
  · rintro ⟨after, hafter⟩
    refine ⟨text.takeWhile isBlank, after, ?_, fun c hc => List.mem_takeWhile_imp hc⟩
    rw [hafter, List.takeWhile_append_dropWhile]

/-- What begins with a count and a word also does with more text behind it. -/
theorem BeginsWithCount.append {text count : List Char}
    (h : BeginsWithCount isSeparator word text count) (more : List Char) :
    BeginsWithCount isSeparator word (text ++ more) count := by
  obtain ⟨gap, rest, rfl, hcount, hgap⟩ := h
  refine ⟨gap, rest ++ more, ?_, hcount, hgap⟩
  simp only [List.append_assoc]

/-- A count before the end of a line and a word behind it are one occurrence. -/
theorem BeginsWithCount.of_opensCount (hword : IsReportWord isSeparator word)
    {text count rest : List Char} (hopens : OpensCount isSeparator text count)
    (hrest : BeginsWithWord word rest) :
    BeginsWithCount isSeparator word (text ++ '\n' :: rest) count := by
  obtain ⟨blanks, rfl, hcount, hblanks, hstops⟩ := hopens
  obtain ⟨more, after, rfl, hmore⟩ := hrest
  refine ⟨blanks ++ '\n' :: more, after, by simp only [List.append_assoc, List.cons_append],
    hcount, by simp, ?_, ?_⟩
  · exact List.forall_mem_append.2 ⟨hblanks, List.forall_mem_cons.2 ⟨by decide, hmore⟩⟩
  · intro c others heq hseparator
    cases blanks with
    | nil =>
      obtain ⟨rfl, -⟩ := List.cons.inj heq
      cases hword.isSeparator_lineFeed.symm.trans hseparator
    | cons blank blanks =>
      obtain ⟨rfl, -⟩ := List.cons.inj heq
      cases (hstops blank blanks rfl).symm.trans hseparator

/-- An occurrence that is not all before the end of a line has the count before it and the word
behind. -/
theorem BeginsWithCount.opensCount (hword : IsReportWord isSeparator word)
    {text count rest : List Char} (hnone : ¬ BeginsWithCount isSeparator word text count)
    (h : BeginsWithCount isSeparator word (text ++ '\n' :: rest) count) :
    OpensCount isSeparator text count ∧ BeginsWithWord word rest := by
  obtain ⟨gap, after, heq, hcount, hgap⟩ := h
  obtain ⟨between, rfl, hbehind⟩ :=
    exists_append_of_notMem (hcount.lineFeed_notMem hword.isSeparator_lineFeed) heq
  rcases List.append_eq_append_iff.1 hbehind with ⟨inner, rfl, hinner⟩ | ⟨outer, rfl, houter⟩
  · -- The gap ends before the line does.
    obtain ⟨last, rfl, -⟩ := exists_append_of_notMem hword.lineFeed_notMem hinner.symm
    exact absurd ⟨gap, last, rfl, hcount, hgap⟩ hnone
  · -- The line ends in the gap.
    cases outer with
    | nil =>
      obtain ⟨letter, more, rfl, -, -, hblank⟩ := hword.exists_letter
      obtain ⟨rfl, -⟩ := List.cons.inj houter
      cases hblank
    | cons c outer =>
      obtain ⟨rfl, rfl⟩ := List.cons.inj houter
      obtain ⟨hbetween, hinner⟩ := List.forall_mem_append.1 hgap.blanks
      refine ⟨⟨between, rfl, hcount, hbetween, ?_⟩, outer, after, rfl,
        (List.forall_mem_cons.1 hinner).2⟩
      rintro first others rfl
      by_contra hseparator
      have halone := hgap.alone first _ rfl (Bool.not_eq_false _ ▸ hseparator)
      cases (List.append_eq_nil_iff.1 halone).2

/-- A count and white space hold no occurrence. -/
theorem OpensCount.not_beginsWithCount (hword : IsReportWord isSeparator word)
    {text count : List Char} (h : OpensCount isSeparator text count) {rest found : List Char}
    (hrest : rest <:+ text) : ¬ BeginsWithCount isSeparator word rest found := by
  obtain ⟨blanks, rfl, hcount, hblanks, -⟩ := h
  obtain ⟨letter, more, rfl, hdigit, hseparator, hblank⟩ := hword.exists_letter
  rintro ⟨gap, after, rfl, -, -⟩
  have hletter : letter ∈ count ++ blanks := hrest.subset (by simp)
  rcases List.mem_append.1 hletter with hletter | hletter
  · rcases hcount.forall_mem letter hletter with h | h
    · cases hdigit.symm.trans h
    · cases hseparator.symm.trans h
  · cases hblank.symm.trans (hblanks letter hletter)

/-- A pattern of a count and a word goes on over the end of a line from the one to the other. -/
theorem breaksAtLineEnds_of_count {pattern : List Char → Option (List Char)}
    (hword : IsReportWord isSeparator word)
    (hpattern : ∀ {text count}, pattern text = some count ↔
      BeginsWithCount isSeparator word text count) :
    BreaksAtLineEnds pattern (OpensCount isSeparator) (BeginsWithWord word) where
  keeps rest h := hpattern.2 ((hpattern.1 h).append ('\n' :: rest))
  crosses {text} rest count hnone := by
    rw [hpattern]
    constructor
    · refine BeginsWithCount.opensCount hword ?_
      intro h
      cases hnone.symm.trans (hpattern.2 h)
    · rintro ⟨hopens, hrest⟩
      exact BeginsWithCount.of_opensCount hword hopens hrest
  closed hopens := by
    rw [firstMatch_eq_none_iff]
    intro rest hrest
    rw [Option.eq_none_iff_forall_ne_some]
    exact fun found h => hopens.not_beginsWithCount hword hrest (hpattern.1 h)
  lineEnd rest := by
    rw [Option.eq_none_iff_forall_ne_some]
    intro count h
    obtain ⟨gap, after, heq, ⟨digit, more, rfl, hdigit, -⟩, -⟩ := hpattern.1 h
    obtain ⟨rfl, -⟩ := List.cons.inj heq
    cases isDecimalDigit_lineFeed.symm.trans hdigit

end

/-- The digits behind the label are on its line. -/
theorem RssPlatform.breaksAtLineEnds_afterLabel? :
    BreaksAtLineEnds afterLabel? (fun _ _ => False) (fun _ => False) where
  keeps {text count} more h := by
    obtain ⟨rest, rfl, hne, hall, hstops⟩ := afterLabel?_eq_some_iff.1 h
    refine afterLabel?_eq_some_iff.2 ⟨rest ++ '\n' :: more, ?_, hne, hall, ?_⟩
    · simp only [List.append_assoc]
    · cases rest with
      | nil => exact stops_cons isDecimalDigit_lineFeed more
      | cons c rest => exact stops_cons (hstops c rest rfl) (rest ++ '\n' :: more)
  crosses {text} rest count hnone := by
    refine iff_of_false ?_ (fun h => h.1)
    intro h
    obtain ⟨behind, heq, hne, hall, hstops⟩ := afterLabel?_eq_some_iff.1 h
    have hlabel : '\n' ∉ (kibibyteLabel ++ ": ").toList := by simp [kibibyteLabel]
    obtain ⟨line, rfl, hline⟩ := exists_append_of_notMem hlabel heq
    have hdigits : '\n' ∉ count := by
      intro hmem
      cases isDecimalDigit_lineFeed.symm.trans (hall '\n' hmem)
    obtain ⟨last, rfl, rfl⟩ := exists_append_of_notMem hdigits hline.symm
    have hlast : Stops isDecimalDigit last := by
      rintro c more rfl
      exact hstops c _ rfl
    cases hnone.symm.trans (afterLabel?_eq_some_iff.2 ⟨last, rfl, hne, hall, hlast⟩)
  closed h := h.elim
  lineEnd rest := rfl

/-! ## Probes -/

namespace Probe

/-- The pattern that a probe looks for in a tool's stream. -/
def pattern? : Probe → List Char → Option (List Char)
  | .allocation => fun _ => none
  | .phaseTiming => fun _ => none
  | .maxRss platform => platform.peak?
  | .instructions => Instructions.count?

/-- The word that marks a probe's number in a tool's report. -/
def reportWord : Probe → String
  | .allocation => ""
  | .phaseTiming => ""
  | .maxRss platform => platform.label
  | .instructions => Instructions.label

/-- A text shows a number as the tool's report does. -/
def Shows (probe : Probe) (text : List Char) : Prop :=
  match probe with
  | .allocation => False
  | .phaseTiming => False
  | .maxRss .linux => ∃ before digit after, isDecimalDigit digit = true ∧
      text = before ++ ((RssPlatform.kibibyteLabel ++ ": ").toList ++ digit :: after)
  | .maxRss .macos => HoldsCount (fun _ => false) RssPlatform.byteLabel.toList text
  | .instructions => HoldsCount Instructions.isSeparator Instructions.label.toList text

/-- A number at the end of a text stands before the word at the beginning of the next one. -/
def Joins (probe : Probe) (output report : List Char) : Prop :=
  match probe with
  | .allocation => False
  | .phaseTiming => False
  | .maxRss .linux => False
  | .maxRss .macos => EndsWithCount (fun _ => false) output ∧
      BeginsWithWord RssPlatform.byteLabel.toList report
  | .instructions => EndsWithCount Instructions.isSeparator output ∧
      BeginsWithWord Instructions.label.toList report

/-- How a probe's pattern is opened before the end of a line. -/
def Opens : Probe → List Char → List Char → Prop
  | .allocation => fun _ _ => False
  | .phaseTiming => fun _ _ => False
  | .maxRss .linux => fun _ _ => False
  | .maxRss .macos => OpensCount fun _ => false
  | .instructions => OpensCount Instructions.isSeparator

/-- How a probe's pattern goes on behind the end of a line. -/
def Continues : Probe → List Char → Prop
  | .allocation => fun _ => False
  | .phaseTiming => fun _ => False
  | .maxRss .linux => fun _ => False
  | .maxRss .macos => BeginsWithWord RssPlatform.byteLabel.toList
  | .instructions => BeginsWithWord Instructions.label.toList

theorem breaksAtLineEnds (probe : Probe) :
    BreaksAtLineEnds probe.pattern? probe.Opens probe.Continues := by
  match probe with
  | .allocation => exact ⟨nofun, fun _ _ _ => iff_of_false nofun nofun, nofun, fun _ => rfl⟩
  | .phaseTiming => exact ⟨nofun, fun _ _ _ => iff_of_false nofun nofun, nofun, fun _ => rfl⟩
  | .maxRss .linux => exact RssPlatform.breaksAtLineEnds_afterLabel?
  | .maxRss .macos =>
    exact breaksAtLineEnds_of_count RssPlatform.isReportWord_byteLabel
      RssPlatform.beforeLabel?_eq_some_iff
  | .instructions =>
    exact breaksAtLineEnds_of_count Instructions.isReportWord_label Instructions.count?_eq_some_iff

theorem joins_iff {probe : Probe} {output report : List Char} :
    probe.Joins output report ↔
      (∃ rest, rest <:+ output ∧ ∃ count, probe.Opens rest count) ∧ probe.Continues report := by
  match probe with
  | .allocation => exact iff_of_false id fun h => h.2
  | .phaseTiming => exact iff_of_false id fun h => h.2
  | .maxRss .linux => exact iff_of_false id fun h => h.2
  | .maxRss .macos => exact and_congr_left' exists_opensCount_iff.symm
  | .instructions => exact and_congr_left' exists_opensCount_iff.symm

/-- The bare word is joined as well as a report that begins with it. -/
theorem Joins.continues_reportWord {probe : Probe} {output report : List Char}
    (h : probe.Joins output report) : probe.Continues probe.reportWord.toList := by
  match probe, h with
  | .maxRss .macos, _ => exact ⟨[], [], (List.append_nil _).symm, nofun⟩
  | .instructions, _ => exact ⟨[], [], (List.append_nil _).symm, nofun⟩

/-- A text shows a number just if the probe finds one. -/
theorem shows_iff {probe : Probe} {text : List Char} :
    probe.Shows text ↔ firstMatch probe.pattern? text ≠ none := by
  rw [firstMatch_ne_none_iff]
  match probe with
  | .allocation => exact iff_of_false id nofun
  | .phaseTiming => exact iff_of_false id nofun
  | .maxRss .linux =>
    constructor
    · rintro ⟨before, digit, after, hdigit, rfl⟩
      refine ⟨_, List.suffix_append _ _, digit :: after.takeWhile isDecimalDigit,
        RssPlatform.afterLabel?_eq_some_iff.2 ⟨after.dropWhile isDecimalDigit, ?_,
          List.cons_ne_nil _ _, ?_, stops_dropWhile isDecimalDigit after⟩⟩
      · rw [List.cons_append, List.takeWhile_append_dropWhile]
      · exact List.forall_mem_cons.2 ⟨hdigit, fun c hc => List.mem_takeWhile_imp hc⟩
    · rintro ⟨_, ⟨before, rfl⟩, digits, hpeak⟩
      obtain ⟨rest, rfl, hne, hall, -⟩ := RssPlatform.afterLabel?_eq_some_iff.1 hpeak
      obtain ⟨digit, more, rfl⟩ := List.exists_cons_of_ne_nil hne
      exact ⟨before, digit, more ++ rest, hall digit List.mem_cons_self, rfl⟩
  | .maxRss .macos =>
    refine exists_beginsWithCount_iff.symm.trans ?_
    simp only [← RssPlatform.beforeLabel?_eq_some_iff]
    rfl
  | .instructions =>
    refine exists_beginsWithCount_iff.symm.trans ?_
    simp only [← Instructions.count?_eq_some_iff]
    rfl

/-- Of the tool's stream a probe uses only what it finds first. -/
theorem extract_congr_firstMatch {probe : Probe} {text other : String}
    (h : firstMatch probe.pattern? text.toList = firstMatch probe.pattern? other.toList)
    (sample : Sample) (trace : String) :
    probe.extract { sample with stderr := text } trace =
      probe.extract { sample with stderr := other } trace := by
  match probe with
  | .allocation => rfl
  | .phaseTiming => rfl
  | .maxRss platform =>
    have hpeak : firstMatch platform.peak? text.toList =
        firstMatch platform.peak? other.toList := h
    simp only [extract, RssPlatform.parse, RssPlatform.readPeak, hpeak]
  | .instructions =>
    have hcount : firstMatch Instructions.count? text.toList =
        firstMatch Instructions.count? other.toList := h
    simp only [extract, Instructions.parse, hcount]

/-- Whose number a probe takes where a tool reports on the lines behind a program's output: the
report's, unless the program's output shows a number itself, which then is taken, or ends in one that
the report's first word joins. -/
theorem extract_behind_output (probe : Probe) (sample : Sample) (trace output report : String) :
    (¬ probe.Shows output.toList → ¬ probe.Joins output.toList report.toList →
      probe.extract { sample with stderr := output ++ "\n" ++ report } trace =
        probe.extract { sample with stderr := report } trace) ∧
    (probe.Shows output.toList →
      probe.extract { sample with stderr := output ++ "\n" ++ report } trace =
        probe.extract { sample with stderr := output } trace) ∧
    (¬ probe.Shows output.toList → probe.Joins output.toList report.toList →
      probe.extract { sample with stderr := output ++ "\n" ++ report } trace =
        probe.extract { sample with stderr := output ++ "\n" ++ probe.reportWord } trace) := by
  have law := probe.breaksAtLineEnds
  have hlines : ∀ text : String,
      (output ++ "\n" ++ text).toList = output.toList ++ '\n' :: text.toList := by
    intro text
    simp only [String.toList_append, List.append_assoc]
    rfl
  rw [shows_iff, not_ne_iff]
  refine ⟨?_, ?_, ?_⟩
  · intro hnone hjoins
    refine extract_congr_firstMatch ?_ sample trace
    rw [hlines]
    exact law.firstMatch_of_not_joined hnone (joins_iff.not.1 hjoins)
  · intro hfound
    obtain ⟨count, hcount⟩ := Option.ne_none_iff_exists'.1 hfound
    refine extract_congr_firstMatch ?_ sample trace
    rw [hlines, hcount]
    exact law.firstMatch_of_found hcount report.toList
  · intro hnone hjoins
    obtain ⟨hopened, hreport⟩ := joins_iff.1 hjoins
    refine extract_congr_firstMatch ?_ sample trace
    rw [hlines, hlines]
    exact law.firstMatch_of_joined hnone hopened hreport hjoins.continues_reportWord

/-- Output that ends in a number stands before a report with a heading, and before one that begins
with the word: then the number is taken for the report's own. -/
theorem extract_behind_trailing_number :
    let probe : Probe := .instructions
    let output := "took 12 s, exit 7"
    let report := " Performance counter stats:\n  1,234  instructions:u\n"
    let joined := "instructions\n  1,234  instructions:u\n"
    ¬ probe.Shows output.toList ∧ ¬ probe.Joins output.toList report.toList ∧
      probe.Joins output.toList joined.toList ∧
      probe.extract { stderr := output ++ "\n" ++ report } "" =
        .ok [(.scalar "instructions", 1234.0)] ∧
      probe.extract { stderr := joined } "" = .ok [(.scalar "instructions", 1234.0)] ∧
      probe.extract { stderr := output ++ "\n" ++ joined } "" =
        .ok [(.scalar "instructions", 7.0)] := by
  intro probe output report joined
  have hnone : ¬ probe.Shows output.toList := by
    rw [shows_iff, not_ne_iff]
    decide +kernel
  have happart : ¬ probe.Joins output.toList report.toList := by
    rintro ⟨-, hword⟩
    rw [beginsWithWord_iff Instructions.isReportWord_label] at hword
    revert hword
    decide +kernel
  have hjoins : probe.Joins output.toList joined.toList := by
    refine ⟨⟨"took 12 s, exit ".toList, ['7'], [], by decide +kernel, ?_, nofun⟩, ?_⟩
    · exact ⟨'7', [], rfl, by decide +kernel, nofun⟩
    · rw [beginsWithWord_iff Instructions.isReportWord_label]
      decide +kernel
  refine ⟨hnone, happart, hjoins, ?_, by decide +kernel, ?_⟩
  · rw [(extract_behind_output probe {} "" output report).1 hnone happart]
    decide +kernel
  · rw [(extract_behind_output probe {} "" output joined).2.2 hnone hjoins]
    decide +kernel

/-- The program writes a line of its own that reads like the report's, and it is taken for it. -/
theorem output_stands_in_for_peak :
    let probe : Probe := .maxRss .linux
    let output := "Maximum resident set size (kbytes): 1024"
    let report := "\tMaximum resident set size (kbytes): 2048\n"
    probe.extract { stderr := report, succeeded := true } "" = .ok [(.scalar "maxrss", 2.0)] ∧
      probe.extract { stderr := output ++ "\n" ++ report, succeeded := true } "" =
        .ok [(.scalar "maxrss", 1.0)] ∧
      (1.0 : Float) ≠ 2.0 := by
  decide +kernel

end Probe

end RunMeter
