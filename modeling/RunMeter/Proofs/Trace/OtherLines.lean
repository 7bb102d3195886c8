import RunMeter.Proofs.Text.LineEnds
import RunMeter.Proofs.Text.Matching
import RunMeter.Proofs.Trace.PhaseReading

/-!
# Lines that are no markers

A row can be put between the lines of a trace, and it is ignored if that never changes what the trace
is read as (`IsIgnored`). What counts is the line that the row is read as, which lacks a carriage
return at its end. A line that is not timed is ignored. A timed line is ignored exactly if it announces
no marker and its time is in ASCII digits (`isIgnored_iff`): a time in other digits is a violation,
whatever stands before it, since times are read before markers are looked for
(`unreadable_time_is_no_marker`).
-/

set_option autoImplicit false

namespace RunMeter

open RunMeter.Text

/-- A text that begins as a marker does. -/
def AnnouncesMarker (text : List Char) : Prop :=
  "before-".toList <+: text ∨ "after-".toList <+: text

/-- A time whose digits are those of ASCII. -/
def InAsciiDigits (time : List Char) : Prop := ∀ c ∈ time, c.isDigit = true ∨ c = '.'

instance (time : List Char) : Decidable (InAsciiDigits time) :=
  List.decidableBAll (fun c : Char => c.isDigit = true ∨ c = '.') time

/-- A row that may stand between any two lines of any trace without a change of the result. -/
def IsIgnored (row : List Char) : Prop :=
  ∀ before after wall, EndsLine before →
    Phases.parse (before ++ (row ++ '\n' :: after)) wall = Phases.parse (before ++ after) wall

/-! ## What a line says -/

/-- A text announces a marker just if it is the text of one. -/
theorem announcesMarker_iff {text : List Char} :
    AnnouncesMarker text ↔ ∃ marker : Marker, text = marker.text := by
  constructor
  · rintro (⟨name, rfl⟩ | ⟨name, rfl⟩)
    · exact ⟨.before (String.ofList name), by rw [Marker.text_before, @String.toList_ofList name]⟩
    · exact ⟨.after (String.ofList name), by rw [Marker.text_after, @String.toList_ofList name]⟩
  · rintro ⟨marker, rfl⟩
    cases marker with
    | before name => exact Or.inl ⟨name.toList, rfl⟩
    | after name => exact Or.inr ⟨name.toList, rfl⟩

theorem Marker.ofText?_eq_none_iff {text : List Char} :
    Marker.ofText? text = none ↔ ¬ AnnouncesMarker text := by
  rw [announcesMarker_iff, not_exists, Option.eq_none_iff_forall_ne_some]
  exact forall_congr' fun marker => not_congr (Marker.ofText?_eq_some_iff text marker)

/-- A plain decimal is in ASCII digits. -/
theorem inAsciiDigits_of_plainParts? {text : List Char} {parts : Nat × Int}
    (h : Decimal.plainParts? text = some parts) : InAsciiDigits text := by
  have hwhole : ∀ c ∈ text.takeWhile Char.isDigit, c.isDigit = true :=
    fun c hc => List.mem_takeWhile_imp hc
  unfold Decimal.plainParts? at h
  dsimp only at h
  intro c hc
  rw [← List.takeWhile_append_dropWhile (p := Char.isDigit) (l := text), List.mem_append] at hc
  rcases hc with hc | hc
  · exact Or.inl (hwhole c hc)
  split at h
  next hdrop =>
    rw [hdrop] at hc
    cases hc
  next fraction hdrop =>
    rw [hdrop, List.mem_cons] at hc
    split at h
    next hfraction =>
      rw [Bool.and_eq_true, List.all_eq_true] at hfraction
      exact hc.symm.imp_left (hfraction.1 c)
    next => cases h
  next => cases h

/-- A time can be read just if it is in ASCII digits. -/
theorem HasTimeShape.exists_readPlain_iff {time : List Char} (h : HasTimeShape time) :
    (∃ seconds, Binary64.readPlain time = .ok seconds) ↔ InAsciiDigits time := by
  constructor
  · rintro ⟨seconds, hread⟩
    unfold Binary64.readPlain at hread
    split at hread
    next digits exponent hparts => exact inAsciiDigits_of_plainParts? hparts
    next => cases hread
  · intro hascii
    obtain ⟨whole, fraction, rfl, hwhole, -, hdigits, hfraction⟩ := h
    have hpoint : isDecimalDigit '.' = false := isDecimalDigit_eq_isDigit (by decide)
    have hdigit : ∀ c, isDecimalDigit c = true → c.isDigit = true ∨ c = '.' →
        c.isDigit = true := by
      rintro c hdecimal (hc | rfl)
      · exact hc
      · rw [hpoint] at hdecimal
        cases hdecimal
    have hleft : ∀ c ∈ whole, c.isDigit = true := fun c hc =>
      hdigit c (hdigits c hc) (hascii c (List.mem_append_left _ hc))
    have hright : fraction.all Char.isDigit = true := List.all_eq_true.2 fun c hc =>
      hdigit c (hfraction c hc) (hascii c (List.mem_append_right _ (List.mem_cons_of_mem _ hc)))
    have hstops : Stops Char.isDigit ('.' :: fraction) := stops_cons (by decide) fraction
    have hnonempty : whole.isEmpty = false := List.isEmpty_eq_false_iff.2 hwhole
    have hparts : Decimal.plainParts? (whole ++ '.' :: fraction) =
        some (Decimal.value (whole ++ fraction), -(fraction.length : Int)) := by
      unfold Decimal.plainParts?
      rw [List.takeWhile_append_of_pos hleft, List.dropWhile_append_of_pos hleft,
        takeWhile_of_stops hstops, dropWhile_of_stops hstops, List.append_nil]
      simp only [hright, hnonempty, Bool.false_and, Bool.not_false, Bool.and_self, if_true]
    rw [Binary64.readPlain, hparts]
    exact ⟨_, rfl⟩

/-! ## What a line does -/

namespace PhaseState

variable {line text time : List Char}

/-- A time in other digits is a violation. -/
theorem readLine_of_not_inAsciiDigits (h : IsTimed line text time) (hascii : ¬ InAsciiDigits time)
    (state : PhaseState) : state.readLine line = .error (.badTime (String.ofList line)) := by
  have htimed := (TimedLine.ofLine?_eq_some_iff line text time).2 h
  cases hread : Binary64.readPlain time with
  | ok seconds => exact absurd (h.hasTimeShape.exists_readPlain_iff.1 ⟨seconds, hread⟩) hascii
  | error fault =>
    unfold readLine
    rw [htimed]
    dsimp only
    rw [hread]

/-- A time in ASCII digits is read, and the marker before it is followed, if there is one. -/
theorem readLine_of_inAsciiDigits (h : IsTimed line text time) (hascii : InAsciiDigits time) :
    ∃ seconds, ∀ state : PhaseState,
      state.readLine line = state.follow seconds (Marker.ofText? text) := by
  have htimed := (TimedLine.ofLine?_eq_some_iff line text time).2 h
  obtain ⟨seconds, hread⟩ := h.hasTimeShape.exists_readPlain_iff.2 hascii
  refine ⟨seconds, fun state => ?_⟩
  unfold readLine
  rw [htimed]
  dsimp only
  rw [hread]

/-- A line that says nothing of a region leaves the state as it is. -/
theorem readLine_of_other
    (h : ∀ text time, IsTimed line text time → ¬ AnnouncesMarker text ∧ InAsciiDigits time)
    (state : PhaseState) : state.readLine line = .ok state := by
  cases hline : TimedLine.ofLine? line with
  | none =>
    unfold readLine
    rw [hline]
  | some timed =>
    have htimed := (TimedLine.ofLine?_eq_some_iff line timed.text timed.time).1 hline
    obtain ⟨hmarker, hascii⟩ := h timed.text timed.time htimed
    obtain ⟨seconds, hread⟩ := readLine_of_inAsciiDigits htimed hascii
    rw [hread, Marker.ofText?_eq_none_iff.2 hmarker]
    rfl

end PhaseState

/-- A row between two lines is read between them. -/
theorem parse_insert {before row : List Char} (h : EndsLine before) (hfeed : '\n' ∉ row)
    (after : List Char) (wall : Duration) :
    Phases.parse (before ++ (row ++ '\n' :: after)) wall =
      match PhaseState.readLines {} (lines before) with
      | .error violation => .error violation
      | .ok state =>
        match state.readLine (withoutReturn row) with
        | .error violation => .error violation
        | .ok next => (next.readLines (lines after)).map (Phases.ofState · wall) := by
  rw [Phases.parse, lines_insert h hfeed, PhaseState.readLines_append]
  cases PhaseState.readLines {} (lines before) with
  | error violation => rfl
  | ok state =>
    dsimp only
    rw [PhaseState.readLines]
    cases state.readLine (withoutReturn row) with
    | error violation => rfl
    | ok next =>
      dsimp only
      cases next.readLines (lines after) with
      | error violation => rfl
      | ok last => rfl

theorem parse_append {before : List Char} (h : EndsLine before) (after : List Char)
    (wall : Duration) :
    Phases.parse (before ++ after) wall =
      match PhaseState.readLines {} (lines before) with
      | .error violation => .error violation
      | .ok state => (state.readLines (lines after)).map (Phases.ofState · wall) := by
  rw [Phases.parse, lines_append h, PhaseState.readLines_append]
  cases PhaseState.readLines {} (lines before) with
  | error violation => rfl
  | ok state =>
    dsimp only
    cases state.readLines (lines after) with
    | error violation => rfl
    | ok last => rfl

/-! ## Which rows are ignored -/

section

variable {row text time : List Char}

/-- A row whose time is in other digits ends the reading of a trace that is in order so far. -/
theorem parse_insert_of_not_inAsciiDigits (hfeed : '\n' ∉ row)
    (h : IsTimed (withoutReturn row) text time) (hascii : ¬ InAsciiDigits time)
    {before : List Char} (hbefore : EndsLine before) (after : List Char) (wall : Duration) :
    Phases.parse (before ++ (row ++ '\n' :: after)) wall =
      match PhaseState.readLines {} (lines before) with
      | .error violation => .error violation
      | .ok _ => .error (.badTime (String.ofList (withoutReturn row))) := by
  rw [parse_insert hbefore hfeed]
  cases PhaseState.readLines {} (lines before) with
  | error violation => rfl
  | ok state =>
    dsimp only
    rw [PhaseState.readLine_of_not_inAsciiDigits h hascii]

/-- A row that says nothing of a region is ignored. -/
theorem isIgnored_of_other (hfeed : '\n' ∉ row)
    (h : ∀ text time, IsTimed (withoutReturn row) text time →
      ¬ AnnouncesMarker text ∧ InAsciiDigits time) : IsIgnored row := by
  intro before after wall hbefore
  rw [parse_insert hbefore hfeed, parse_append hbefore]
  cases PhaseState.readLines {} (lines before) with
  | error violation => rfl
  | ok state =>
    dsimp only
    rw [PhaseState.readLine_of_other h]

theorem inAsciiDigits_of_isIgnored (hfeed : '\n' ∉ row) (hignored : IsIgnored row)
    (h : IsTimed (withoutReturn row) text time) : InAsciiDigits time := by
  by_contra hascii
  have hsame := hignored [] [] Duration.zero (Or.inl rfl)
  rw [parse_insert_of_not_inAsciiDigits hfeed h hascii (Or.inl rfl)] at hsame
  cases hsame

/-- A region can be opened at the start of a trace and closed right after that. -/
theorem exists_follow_twice (name : String) (start stop : Float) :
    ∃ opened closed, PhaseState.follow {} start (some (.before name)) = .ok opened ∧
      opened.follow stop (some (.after name)) = .ok closed := by
  let opening : TimedMarker := { marker := .before name, time := start }
  let closing : TimedMarker := { marker := .after name, time := stop }
  let nesting : Nesting := {}
  have hopens : nesting.Allows opening.marker := List.not_mem_nil
  have hcloses : (nesting.follow opening).Allows closing.marker := ⟨_, _, rfl, rfl⟩
  exact ⟨_, _, Nesting.follow_toState Nesting.coherent_start hopens,
    Nesting.follow_toState (Nesting.coherent_start.follow hopens) hcloses⟩

/-- A marker is not ignored: one that closes a region is a violation at the start of a trace, and one
that opens a region keeps the closing marker from being one. -/
theorem not_announcesMarker_of_isIgnored (hfeed : '\n' ∉ row) (hignored : IsIgnored row)
    (h : IsTimed (withoutReturn row) text time) : ¬ AnnouncesMarker text := by
  have hascii := inAsciiDigits_of_isIgnored hfeed hignored h
  obtain ⟨seconds, hread⟩ := PhaseState.readLine_of_inAsciiDigits h hascii
  rw [announcesMarker_iff]
  rintro ⟨marker, rfl⟩
  rw [(Marker.ofText?_eq_some_iff _ marker).2 rfl] at hread
  cases marker with
  | after name =>
    have hsame := hignored [] [] Duration.zero (Or.inl rfl)
    rw [parse_insert (Or.inl rfl) hfeed] at hsame
    simp only [lines_nil, PhaseState.readLines, hread] at hsame
    cases hsame
  | before name =>
    let closing := (Marker.after name).text ++ ' ' :: time
    have htimed : IsTimed closing (Marker.after name).text time :=
      ⟨rfl, List.append_ne_nil_of_left_ne_nil (by simp) _, h.hasTimeShape⟩
    have hlines : lines (closing ++ ['\n']) = [closing] := by
      have hname : '\n' ∉ name.toList := by
        intro hmem
        apply hfeed
        apply mem_of_mem_withoutReturn
        rw [h.line_eq, Marker.text_before]
        exact List.mem_append_left _ (List.mem_append_right _ hmem)
      have htime : ∀ c ∈ ' ' :: time, c.isDigit = true ∨ c = '.' ∨ c = ' ' := by
        intro c hc
        rcases List.mem_cons.1 hc with rfl | hc
        · exact Or.inr (Or.inr rfl)
        · exact (hascii c hc).imp_right Or.inl
      apply lines_row
      · rw [List.mem_append, Marker.text_after, List.mem_append]
        rintro ((hmem | hmem) | hmem)
        · simp at hmem
        · exact hname hmem
        · exact absurd (htime '\n' hmem) (by decide)
      · rw [List.getLast?_append_of_ne_nil _ (List.cons_ne_nil ' ' time)]
        intro hlast
        exact absurd (htime '\r' (List.mem_of_getLast? hlast)) (by decide)
    obtain ⟨stop, hclosing⟩ := PhaseState.readLine_of_inAsciiDigits htimed hascii
    rw [(Marker.ofText?_eq_some_iff _ (.after name)).2 rfl] at hclosing
    obtain ⟨opened, closed, hopens, hcloses⟩ := exists_follow_twice name seconds stop
    have hsame := hignored [] (closing ++ ['\n']) Duration.zero (Or.inl rfl)
    rw [parse_insert (Or.inl rfl) hfeed, parse_append (Or.inl rfl)] at hsame
    simp only [lines_nil, PhaseState.readLines, hread, hopens, hlines, hclosing, hcloses] at hsame
    cases hsame

end

/-- A row without a line feed is ignored just if the line that it is read as is not timed, or
announces no marker and has its time in ASCII digits. If its time is in other digits, every trace that
is in order up to the row is a violation, whether the row announces a marker or not. -/
theorem isIgnored_iff (row : List Char) (hfeed : '\n' ∉ row) :
    (IsIgnored row ↔ ∀ text time, IsTimed (withoutReturn row) text time →
      ¬ AnnouncesMarker text ∧ InAsciiDigits time) ∧
    ∀ text time, IsTimed (withoutReturn row) text time → ¬ InAsciiDigits time →
      ∀ before after wall, EndsLine before →
        Phases.parse (before ++ (row ++ '\n' :: after)) wall =
          match PhaseState.readLines {} (lines before) with
          | .error violation => .error violation
          | .ok _ => .error (.badTime (String.ofList (withoutReturn row))) := by
  refine ⟨⟨?_, isIgnored_of_other hfeed⟩, ?_⟩
  · intro hignored text time htimed
    exact ⟨not_announcesMarker_of_isIgnored hfeed hignored htimed,
      inAsciiDigits_of_isIgnored hfeed hignored htimed⟩
  · intro text time htimed hascii before after wall hbefore
    exact parse_insert_of_not_inAsciiDigits hfeed htimed hascii hbefore after wall

/-- A timed line without a marker, whose line feed stands behind a carriage return. -/
theorem isIgnored_loaded : '\n' ∉ "loaded 1.0\r".toList ∧ IsIgnored "loaded 1.0\r".toList := by
  have hfeed : '\n' ∉ "loaded 1.0\r".toList := by simp
  refine ⟨hfeed, (isIgnored_iff _ hfeed).1.2 ?_⟩
  intro text time htimed
  have hparts : TimedLine.ofLine? (withoutReturn "loaded 1.0\r".toList) =
      some ⟨"loaded".toList, "1.0".toList⟩ := by decide +kernel
  rw [(TimedLine.ofLine?_eq_some_iff _ text time).2 htimed] at hparts
  cases hparts
  rw [← Marker.ofText?_eq_none_iff]
  exact ⟨by decide +kernel, by decide +kernel⟩

/-- A line that is no marker, with its time in Arabic digits, between the markers of a region. The
trace is in order without it and a violation with it. -/
theorem unreadable_time_is_no_marker :
    let before := "before-main 0.5\n".toList
    let row := "loaded \u0661.\u0662".toList
    let after := "after-main 1.5\n".toList
    '\n' ∉ row ∧ EndsLine before ∧
      (∀ text time, IsTimed row text time → ¬ AnnouncesMarker text) ∧
      (∃ entries, Phases.parse (before ++ after) (Duration.ofSeconds 2) = .ok entries) ∧
      Phases.parse (before ++ (row ++ '\n' :: after)) (Duration.ofSeconds 2) =
        .error (.badTime "loaded \u0661.\u0662") := by
  intro before row after
  have hfeed : '\n' ∉ row := by simp [row]
  have hbefore : EndsLine before := Or.inr (by decide +kernel)
  have hparts : TimedLine.ofLine? row = some ⟨"loaded".toList, "\u0661.\u0662".toList⟩ := by
    decide +kernel
  have htimed : IsTimed (withoutReturn row) "loaded".toList "\u0661.\u0662".toList := by
    have hrow : withoutReturn row = row := by decide +kernel
    rw [hrow]
    exact (TimedLine.ofLine?_eq_some_iff _ _ _).1 hparts
  refine ⟨hfeed, hbefore, ?_, ?_, ?_⟩
  · intro text time hother
    rw [(TimedLine.ofLine?_eq_some_iff _ text time).2 hother] at hparts
    cases hparts
    exact Marker.ofText?_eq_none_iff.1 (by decide +kernel)
  · have hok : (Phases.parse (before ++ after) (Duration.ofSeconds 2)).isOk = true := by
      decide +kernel
    cases hparse : Phases.parse (before ++ after) (Duration.ofSeconds 2) with
    | ok entries => exact ⟨entries, rfl⟩
    | error violation =>
      rw [hparse] at hok
      cases hok
  · have hascii : ¬ InAsciiDigits "\u0661.\u0662".toList := by decide +kernel
    rw [parse_insert_of_not_inAsciiDigits hfeed htimed hascii hbefore]
    have hread : (PhaseState.readLines {} (lines before)).isOk = true := by decide +kernel
    cases hstate : PhaseState.readLines {} (lines before) with
    | ok state => rfl
    | error violation =>
      rw [hstate] at hread
      cases hread

end RunMeter
