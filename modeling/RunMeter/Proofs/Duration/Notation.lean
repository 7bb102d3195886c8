import RunMeter.Proofs.Json.WrittenStrings
import RunMeter.Proofs.Number.Reading
import RunMeter.Proofs.Text.Matching
import RunMeter.Report.Exchange
import RunMeter.Settings

/-!
# The short notation of durations

A duration is read from digits and a unit, and what else stands in the text is white space at its ends
(`Duration.parse_eq_ok_iff`). `Duration.IsCanonical` is the one text that is written for a duration:
whole seconds in seconds, all others in milliseconds, without a needless zero.

What is read is a number of seconds or of milliseconds that is a word, and so is what is written for
it: whole seconds go back to the word that they were made from, however large, and milliseconds that
make no whole seconds were read as milliseconds. So every duration that can be read survives being
written (`Duration.parse_render`), and the canonical texts are the ones that are written as they were
read.
-/

set_option autoImplicit false

namespace RunMeter.Duration

open RunMeter.Text RunMeter.Decimal

/-! ## What is read -/

/-- Units do not begin with a digit. -/
theorem stops_of_ofUnit? {value : UInt64} {unit : List Char} {d : Duration}
    (h : ofUnit? value unit = some d) : Stops Char.isDigit unit := by
  unfold ofUnit? at h
  split at h
  · rintro c more ⟨⟩
  · exact stops_cons (by decide) _
  · exact stops_cons (by decide) _
  · exact stops_cons (by decide) _
  · cases h

/-- Units hold no white space. -/
theorem isBlank_of_ofUnit? {value : UInt64} {unit : List Char} {d : Duration}
    (h : ofUnit? value unit = some d) : ∀ c ∈ unit, isBlank c = false := by
  unfold ofUnit? at h
  split at h
  · nofun
  · exact List.forall_mem_singleton.2 (by decide)
  · exact List.forall_mem_cons.2 ⟨by decide, List.forall_mem_singleton.2 (by decide)⟩
  · exact List.forall_mem_singleton.2 (by decide)
  · cases h

/-- A text begins with digits, which say a number, or it begins with something else. -/
theorem exists_digits (text : List Char) :
    Stops Char.isDigit text ∨ ∃ (digits rest : List Char) (v : Nat), text = digits ++ rest ∧
      Reads digits v ∧ Stops Char.isDigit rest := by
  cases hrun : run? Char.isDigit text with
  | none => exact Or.inl (run?_eq_none_iff.1 hrun)
  | some split =>
    obtain ⟨digits, rest⟩ := split
    obtain ⟨htext, hne, hall, hstops⟩ := run?_eq_some_iff.1 hrun
    exact Or.inr ⟨digits, rest, _, htext, ⟨hne, hall, rfl⟩, hstops⟩

/-- A text that begins with no digit is refused for that. -/
theorem parse_of_stops {input : String} (h : Stops Char.isDigit (trim input.toList)) :
    parse input = .error (.noDigits input) := by
  unfold parse
  dsimp only
  rw [takeWhile_of_stops h]
  rfl

/-- A text that begins with digits is read by their number and what follows them. -/
theorem parse_of_reads {input : String} {digits rest : List Char} {v : Nat}
    (htext : trim input.toList = digits ++ rest) (hreads : Reads digits v)
    (hstops : Stops Char.isDigit rest) :
    parse input =
      if v < 2 ^ 64 then
        match ofUnit? (UInt64.ofNat v) rest with
        | some d => .ok d
        | none => .error (.unknownUnit (String.ofList rest) input)
      else .error (.unreadable input .tooLarge) := by
  have htake : (digits ++ rest).takeWhile Char.isDigit = digits := by
    rw [List.takeWhile_append_of_pos hreads.2.1, takeWhile_of_stops hstops, List.append_nil]
  have hdrop : (digits ++ rest).dropWhile Char.isDigit = rest := by
    rw [List.dropWhile_append_of_pos hreads.2.1, dropWhile_of_stops hstops]
  have hnonempty : ¬ digits.isEmpty = true := by simpa using hreads.1
  unfold parse
  dsimp only
  rw [htext, htake, hdrop, hreads.readWord_eq, if_neg hnonempty]
  by_cases hword : v < 2 ^ 64
  · cases hunit : ofUnit? (UInt64.ofNat v) rest with
    | some d => simp only [if_pos hword, hunit]
    | none => simp only [if_pos hword, hunit]
  · rw [if_neg hword, if_neg hword]

/-- A text that begins with digits is a duration if they say a word and the rest is a unit. -/
theorem parse_eq_ok_iff_of_reads {input : String} {digits rest : List Char} {v : Nat}
    (htext : trim input.toList = digits ++ rest) (hreads : Reads digits v)
    (hstops : Stops Char.isDigit rest) {d : Duration} :
    parse input = .ok d ↔ v < 2 ^ 64 ∧ ofUnit? (UInt64.ofNat v) rest = some d := by
  rw [parse_of_reads htext hreads hstops]
  by_cases hword : v < 2 ^ 64
  · rw [if_pos hword]
    cases ofUnit? (UInt64.ofNat v) rest with
    | some e =>
      rw [Except.ok.injEq, Option.some.injEq]
      exact (and_iff_right hword).symm
    | none => exact iff_of_false nofun nofun
  · rw [if_neg hword]
    exact iff_of_false nofun (fun h => hword h.1)

/-- A text is a duration if it is digits that say a word and a unit, up to white space at its ends. -/
theorem parse_eq_ok_iff {input : String} {d : Duration} :
    parse input = .ok d ↔
      ∃ (digits unit : List Char) (value : UInt64), trim input.toList = digits ++ unit ∧
        Reads digits value.toNat ∧ ofUnit? value unit = some d := by
  constructor
  · intro h
    rcases exists_digits (trim input.toList) with hstops | ⟨digits, rest, v, htext, hreads, hstops⟩
    · cases (parse_of_stops hstops).symm.trans h
    · obtain ⟨hword, hunit⟩ := (parse_eq_ok_iff_of_reads htext hreads hstops).1 h
      rw [← UInt64.toNat_ofNat_of_lt hword] at hreads
      exact ⟨digits, rest, _, htext, hreads, hunit⟩
  · rintro ⟨digits, unit, value, htext, hreads, hunit⟩
    refine (parse_eq_ok_iff_of_reads htext hreads (stops_of_ofUnit? hunit)).2 ⟨value.toNat_lt, ?_⟩
    rw [UInt64.ofNat_toNat]
    exact hunit

/-- The digits of a word and a unit are read as they say. -/
theorem parse_toDigits {value : UInt64} {unit : List Char} {d : Duration}
    (h : ofUnit? value unit = some d) :
    parse (String.ofList (Nat.toDigits 10 value.toNat ++ unit)) = .ok d := by
  have hreads := reads_toDigits value.toNat
  refine parse_eq_ok_iff.2 ⟨_, unit, value, ?_, hreads, h⟩
  rw [String.toList_ofList]
  apply trim_of_forall_not_isBlank
  intro c hc
  rcases List.mem_append.1 hc with hdigit | hunit
  · exact isBlank_of_isDigit (hreads.2.1 c hdigit)
  · exact isBlank_of_ofUnit? h c hunit

/-! ## What is written -/

/-- The text that is written for a duration. -/
inductive IsCanonical : List Char → Duration → Prop
  | seconds (value : UInt64) :
      IsCanonical (Nat.toDigits 10 value.toNat ++ ['s']) (ofSeconds value)
  | millis (value : UInt64) (h : value.toNat % 1000 ≠ 0) :
      IsCanonical (Nat.toDigits 10 value.toNat ++ ['m', 's']) (ofMillis value)

theorem millis_ofSeconds (value : UInt64) : (ofSeconds value).millis = value.toNat * 1000 := by
  rw [millis, ofSeconds, Nat.zero_div, Nat.add_zero]

theorem millis_ofMillis (value : UInt64) : (ofMillis value).millis = value.toNat := by
  have hword : value.toNat / 1000 < 2 ^ 64 := by have := value.toNat_lt; omega
  simp only [millis, ofMillis, UInt64.toNat_ofNat', Nat.mod_eq_of_lt hword]
  omega

/-- Milliseconds that are whole seconds are those seconds. -/
theorem ofMillis_of_dvd {value : UInt64} (h : value.toNat % 1000 = 0) :
    ofMillis value = ofSeconds (UInt64.ofNat (value.toNat / 1000)) := by
  simp only [ofMillis, ofSeconds, h, Nat.zero_mul]

/-- What can be read has a canonical text. -/
theorem exists_isCanonical {value : UInt64} {unit : List Char} {d : Duration}
    (h : ofUnit? value unit = some d) : ∃ text, IsCanonical text d := by
  unfold ofUnit? at h
  split at h
  · cases h
    exact ⟨_, .seconds value⟩
  · cases h
    exact ⟨_, .seconds value⟩
  · cases h
    by_cases hwhole : value.toNat % 1000 = 0
    · rw [ofMillis_of_dvd hwhole]
      exact ⟨_, .seconds _⟩
    · exact ⟨_, .millis value hwhole⟩
  · cases h
    exact ⟨_, .seconds _⟩
  · cases h

/-- The canonical text is read as its duration. -/
theorem IsCanonical.parse_eq {text : List Char} {d : Duration} (h : IsCanonical text d) :
    parse (String.ofList text) = .ok d := by
  cases h with
  | seconds value => exact parse_toDigits rfl
  | millis value _ => exact parse_toDigits rfl

/-- The canonical text is the one that is written. -/
theorem IsCanonical.render_eq {text : List Char} {d : Duration} (h : IsCanonical text d) :
    d.render = String.ofList text := by
  unfold render
  cases h with
  | seconds value =>
    rw [millis_ofSeconds, if_pos (Nat.mul_mod_left _ _), Nat.mul_div_cancel _ (by decide),
      Nat.toString_eq_ofList_toDigits, String.ofList_append]
  | millis value h =>
    rw [millis_ofMillis, if_neg h, Nat.toString_eq_ofList_toDigits, String.ofList_append]

/-- What can be read is written in its canonical text. -/
theorem isCanonical_render {input : String} {d : Duration} (h : parse input = .ok d) :
    IsCanonical d.render.toList d := by
  obtain ⟨digits, unit, value, -, -, hunit⟩ := parse_eq_ok_iff.1 h
  obtain ⟨text, htext⟩ := exists_isCanonical hunit
  rw [htext.render_eq, String.toList_ofList]
  exact htext

/-- Every duration that can be read is written in its canonical text and read from it again, as a
text, as a JSON document and as a value of a settings file. A text is canonical just if it is accepted
and written as it stands. And every word is accepted in each of the units. -/
theorem parse_render (input : String) :
    (∀ d, parse input = .ok d →
      parse d.render = .ok d ∧ IsCanonical d.render.toList d ∧
      (Json.parse? d.toJson.render).bind ofJson? = some d ∧
      SettingsFile.duration? (.string d.render) = some d) ∧
    ((∃ d, IsCanonical input.toList d) ↔ ∃ d, parse input = .ok d ∧ d.render = input) ∧
    ∀ value : UInt64,
      let digits := Nat.toDigits 10 value.toNat
      parse (String.ofList digits) = .ok (ofSeconds value) ∧
      parse (String.ofList (digits ++ ['s'])) = .ok (ofSeconds value) ∧
      parse (String.ofList (digits ++ ['m', 's'])) = .ok (ofMillis value) ∧
      parse (String.ofList (digits ++ ['m'])) = .ok (ofSeconds (saturatingMul value 60)) := by
  refine ⟨?_, ?_, ?_⟩
  · intro d hparse
    have hcanonical := isCanonical_render hparse
    have hagain : parse d.render = .ok d := by
      have := hcanonical.parse_eq
      rwa [String.ofList_toList] at this
    refine ⟨hagain, hcanonical, ?_, ?_⟩
    · rw [toJson, Json.parse?_render_string, Option.bind_some]
      simp only [ofJson?, Json.text?, Option.bind_some, hagain]
      rfl
    · simp only [SettingsFile.duration?, SettingsFile.text?, Option.bind_eq_bind, Option.bind_some,
        hagain]
      rfl
  · constructor
    · rintro ⟨d, hcanonical⟩
      have hparse := hcanonical.parse_eq
      rw [String.ofList_toList] at hparse
      refine ⟨d, hparse, ?_⟩
      rw [hcanonical.render_eq, String.ofList_toList]
    · rintro ⟨d, hparse, rfl⟩
      exact ⟨d, isCanonical_render hparse⟩
  · intro value digits
    refine ⟨?_, parse_toDigits rfl, parse_toDigits rfl, parse_toDigits rfl⟩
    have hbare : ofUnit? value [] = some (ofSeconds value) := rfl
    have hparse := parse_toDigits hbare
    rwa [List.append_nil] at hparse

/-- Minutes that are more seconds than a word holds, between blanks. -/
theorem parse_render_saturated :
    let input := " 307445734561825861m\n"
    let d := ofSeconds 18446744073709551615
    parse input = .ok d ∧ d.render = "18446744073709551615s" ∧ parse d.render = .ok d ∧
      (Json.parse? "\"18446744073709551615s\"").bind ofJson? = some d := by
  intro input d
  have hparse : parse input = .ok d := by decide +kernel
  obtain ⟨hagain, -, hjson, -⟩ := (parse_render input).1 d hparse
  have hrender : d.render = "18446744073709551615s" := by decide +kernel
  have hdocument : d.toJson.render = "\"18446744073709551615s\"" := by decide +kernel
  rw [hdocument] at hjson
  exact ⟨hparse, hrender, hagain, hjson⟩

end RunMeter.Duration
