import RunMeter.Proofs.Duration.Notation

/-!
# The grammar of durations

The short notation is a number in ASCII digits that is a word and one of four units.
`Duration.Denotes` says what such a text is worth, in nanoseconds, and `Duration.Refuses` says of
every other text why it is none. Reading is exactly these two, up to white space at the ends
(`Duration.parse_grammar`): a text begins with digits or it does not (`Duration.exists_digits`), and
digits are read in one way (`Duration.parse_of_reads`). Whatever the fault, it is a failure of the
argument.
-/

set_option autoImplicit false

namespace RunMeter.Duration

open RunMeter.Text RunMeter.Decimal

/-! ## What texts denote -/

/-- A span in nanoseconds. -/
def nanoseconds (d : Duration) : Nat := d.seconds.toNat * 1000000000 + d.nanos

/-- The units that may stand behind a number. -/
def units : List (List Char) := [[], ['s'], ['m', 's'], ['m']]

/-- A text in the short notation and the nanoseconds that it denotes. Minutes that are more seconds
than a word holds denote as many as it holds. -/
inductive Denotes : List Char → Nat → Prop
  | bare {digits : List Char} {v : Nat} (hreads : Reads digits v) (hword : v < 2 ^ 64) :
      Denotes digits (v * 1000000000)
  | seconds {digits : List Char} {v : Nat} (hreads : Reads digits v) (hword : v < 2 ^ 64) :
      Denotes (digits ++ ['s']) (v * 1000000000)
  | millis {digits : List Char} {v : Nat} (hreads : Reads digits v) (hword : v < 2 ^ 64) :
      Denotes (digits ++ ['m', 's']) (v * 1000000)
  | minutes {digits : List Char} {v : Nat} (hreads : Reads digits v) (hword : v < 2 ^ 64) :
      Denotes (digits ++ ['m']) (min (60 * v) (2 ^ 64 - 1) * 1000000000)

/-- A text that is no duration and the fault that is found in it: it begins with no digit, or the
number at its beginning is no word, or what follows the number is no unit. -/
inductive Refuses (input : String) : List Char → DurationFault → Prop
  | noDigits {text : List Char} (hstops : Stops Char.isDigit text) :
      Refuses input text (.noDigits input)
  | tooLarge {digits rest : List Char} {v : Nat} (hreads : Reads digits v)
      (hstops : Stops Char.isDigit rest) (hlarge : 2 ^ 64 ≤ v) :
      Refuses input (digits ++ rest) (.unreadable input .tooLarge)
  | unknownUnit {digits rest : List Char} {v : Nat} (hreads : Reads digits v)
      (hstops : Stops Char.isDigit rest) (hword : v < 2 ^ 64) (hunit : rest ∉ units) :
      Refuses input (digits ++ rest) (.unknownUnit (String.ofList rest) input)

/-- Spans of as many nanoseconds are the same. -/
theorem nanoseconds_inj {d e : Duration} (h : d.nanoseconds = e.nanoseconds) : d = e := by
  unfold nanoseconds at h
  have hd := d.nanos_lt
  have he := e.nanos_lt
  have hseconds : d.seconds.toNat = e.seconds.toNat := by omega
  have hnanos : d.nanos = e.nanos := by omega
  cases d
  cases e
  cases UInt64.toNat_inj.1 hseconds
  cases hnanos
  rfl

theorem nanoseconds_ofSeconds (seconds : UInt64) :
    (ofSeconds seconds).nanoseconds = seconds.toNat * 1000000000 := Nat.add_zero _

theorem nanoseconds_ofMillis (millis : UInt64) :
    (ofMillis millis).nanoseconds = millis.toNat * 1000000 := by
  have hword : millis.toNat / 1000 < 2 ^ 64 := by
    have := millis.toNat_lt
    omega
  simp only [nanoseconds, ofMillis, UInt64.toNat_ofNat', Nat.mod_eq_of_lt hword]
  omega

theorem nanoseconds_minutes (minutes : UInt64) :
    (ofSeconds (saturatingMul minutes 60)).nanoseconds =
      min (60 * minutes.toNat) (2 ^ 64 - 1) * 1000000000 := by
  have hsixty : (60 : UInt64).toNat = 60 := rfl
  rw [nanoseconds_ofSeconds, toNat_saturatingMul, hsixty, Nat.mul_comm 60, maxWord]

/-! ## What is read -/

theorem ofUnit?_eq_none_iff {value : UInt64} {unit : List Char} :
    ofUnit? value unit = none ↔ unit ∉ units := by
  unfold ofUnit?
  split <;> simp_all [units]

/-- A text denotes a span just if it is the digits of a word and a unit that make it. -/
theorem denotes_iff {text : List Char} {nanos : Nat} :
    Denotes text nanos ↔ ∃ (digits unit : List Char) (value : UInt64) (d : Duration),
      text = digits ++ unit ∧ Reads digits value.toNat ∧ ofUnit? value unit = some d ∧
        d.nanoseconds = nanos := by
  constructor
  · intro h
    cases h with
    | @bare _ v hreads hv =>
      rw [← UInt64.toNat_ofNat_of_lt hv] at hreads ⊢
      exact ⟨text, [], _, _, (List.append_nil _).symm, hreads, rfl, nanoseconds_ofSeconds _⟩
    | @seconds digits v hreads hv =>
      rw [← UInt64.toNat_ofNat_of_lt hv] at hreads ⊢
      exact ⟨digits, ['s'], _, _, rfl, hreads, rfl, nanoseconds_ofSeconds _⟩
    | @millis digits v hreads hv =>
      rw [← UInt64.toNat_ofNat_of_lt hv] at hreads ⊢
      exact ⟨digits, ['m', 's'], _, _, rfl, hreads, rfl, nanoseconds_ofMillis _⟩
    | @minutes digits v hreads hv =>
      rw [← UInt64.toNat_ofNat_of_lt hv] at hreads ⊢
      exact ⟨digits, ['m'], _, _, rfl, hreads, rfl, nanoseconds_minutes _⟩
  · rintro ⟨digits, unit, value, d, rfl, hreads, hunit, rfl⟩
    have hlt := value.toNat_lt
    unfold ofUnit? at hunit
    split at hunit
    · cases hunit
      rw [List.append_nil, nanoseconds_ofSeconds]
      exact .bare hreads hlt
    · cases hunit
      rw [nanoseconds_ofSeconds]
      exact .seconds hreads hlt
    · cases hunit
      rw [nanoseconds_ofMillis]
      exact .millis hreads hlt
    · cases hunit
      rw [nanoseconds_minutes]
      exact .minutes hreads hlt
    · cases hunit

/-- Every text that is no duration is refused for its fault. -/
theorem parse_eq_error_iff {input : String} {fault : DurationFault} :
    parse input = .error fault ↔ Refuses input (trim input.toList) fault := by
  constructor
  · intro h
    rcases exists_digits (trim input.toList) with hstops | ⟨digits, rest, v, htext, hreads, hstops⟩
    · cases (parse_of_stops hstops).symm.trans h
      exact .noDigits hstops
    · rw [parse_of_reads htext hreads hstops] at h
      rw [htext]
      split at h
      next hword =>
        cases hunit : ofUnit? (UInt64.ofNat v) rest with
        | some d =>
          rw [hunit] at h
          cases h
        | none =>
          rw [hunit] at h
          cases h
          exact .unknownUnit hreads hstops hword (ofUnit?_eq_none_iff.1 hunit)
      next hlarge =>
        cases h
        exact .tooLarge hreads hstops (Nat.le_of_not_lt hlarge)
  · intro h
    generalize htext : trim input.toList = text at h
    cases h with
    | noDigits hstops => exact parse_of_stops (htext.symm ▸ hstops)
    | tooLarge hreads hstops hlarge =>
      rw [parse_of_reads htext hreads hstops, if_neg (Nat.not_lt_of_le hlarge)]
    | @unknownUnit _ _ v hreads hstops hword hunit =>
      have hnone : ofUnit? (UInt64.ofNat v) _ = none := ofUnit?_eq_none_iff.2 hunit
      rw [parse_of_reads htext hreads hstops, if_pos hword, hnone]

/-- A duration is the one that its text denotes. -/
theorem parse_eq_ok_iff_denotes {input : String} {d : Duration} :
    parse input = .ok d ↔ Denotes (trim input.toList) d.nanoseconds := by
  rw [parse_eq_ok_iff, denotes_iff]
  constructor
  · rintro ⟨digits, unit, value, htext, hreads, hunit⟩
    exact ⟨digits, unit, value, d, htext, hreads, hunit, rfl⟩
  · rintro ⟨digits, unit, value, e, htext, hreads, hunit, hnanos⟩
    cases nanoseconds_inj hnanos
    exact ⟨digits, unit, value, htext, hreads, hunit⟩

/-- A text is read just if it denotes a span. -/
theorem exists_parse_iff {input : String} :
    (∃ d, parse input = .ok d) ↔ ∃ nanos, Denotes (trim input.toList) nanos := by
  constructor
  · rintro ⟨d, hparse⟩
    exact ⟨_, parse_eq_ok_iff_denotes.1 hparse⟩
  · rintro ⟨nanos, hdenotes⟩
    obtain ⟨digits, unit, value, d, htext, hreads, hunit, -⟩ := denotes_iff.1 hdenotes
    exact ⟨d, parse_eq_ok_iff.2 ⟨digits, unit, value, htext, hreads, hunit⟩⟩

/-- Every text that denotes no span is refused as an argument. -/
theorem exists_refusal_iff {input : String} :
    (∃ fault, parse input = .error fault ∧ fault.failure.kind = .invalidArgument) ↔
      ¬ ∃ nanos, Denotes (trim input.toList) nanos := by
  rw [← exists_parse_iff]
  constructor
  · rintro ⟨fault, hfault, -⟩ ⟨d, hparse⟩
    cases hfault.symm.trans hparse
  · intro hnone
    cases hparse : parse input with
    | error fault => exact ⟨fault, rfl, rfl⟩
    | ok d => exact absurd ⟨d, hparse⟩ hnone

/-- A text that denotes a span holds digits and the letters of units only. -/
theorem Denotes.forall_mem {text : List Char} {nanos : Nat} (h : Denotes text nanos) :
    ∀ c ∈ text, c.isDigit = true ∨ c = 's' ∨ c = 'm' := by
  cases h with
  | bare hreads _ => exact fun c hc => Or.inl (hreads.2.1 c hc)
  | seconds hreads _ =>
    rw [List.forall_mem_append, List.forall_mem_singleton]
    exact ⟨fun c hc => Or.inl (hreads.2.1 c hc), Or.inr (Or.inl rfl)⟩
  | millis hreads _ =>
    rw [List.forall_mem_append, List.forall_mem_cons, List.forall_mem_singleton]
    exact ⟨fun c hc => Or.inl (hreads.2.1 c hc), Or.inr (Or.inr rfl), Or.inr (Or.inl rfl)⟩
  | minutes hreads _ =>
    rw [List.forall_mem_append, List.forall_mem_singleton]
    exact ⟨fun c hc => Or.inl (hreads.2.1 c hc), Or.inr (Or.inr rfl)⟩

/-! ## Leading zeros -/

/-- Zeros before the first digit stay there when white space is trimmed off. -/
theorem trim_zeros {before more : List Char} {digit : Char}
    (hbefore : ∀ c ∈ before, isBlank c = true) (hdigit : digit.isDigit = true) (k : Nat) :
    trim (before ++ (List.replicate k '0' ++ digit :: more)) =
      List.replicate k '0' ++ digit :: trimEnd more := by
  have hblank := isBlank_of_isDigit hdigit
  have hstops : Stops isBlank (List.replicate k '0' ++ digit :: more) := by
    cases k with
    | zero => exact stops_cons hblank more
    | succ k => exact stops_cons (by decide) _
  rw [trim_append_of_stops hbefore hstops, trimEnd_append_cons hblank]

/-- Zeros before the first digit make no difference to the duration. -/
theorem parse_zeros {before more : List Char} {digit : Char}
    (hbefore : ∀ c ∈ before, isBlank c = true) (hdigit : digit.isDigit = true) (k : Nat)
    {d : Duration} :
    parse (String.ofList (before ++ (List.replicate k '0' ++ digit :: more))) = .ok d ↔
      parse (String.ofList (before ++ digit :: more)) = .ok d := by
  have htrim : ∀ k : Nat,
      trim (String.ofList (before ++ (List.replicate k '0' ++ digit :: more))).toList =
        List.replicate k '0' ++ digit :: trimEnd more := by
    intro k
    rw [String.toList_ofList]
    exact trim_zeros hbefore hdigit k
  rcases exists_digits (digit :: trimEnd more) with hstops | ⟨digits, rest, v, heq, hreads, hstops⟩
  · cases hdigit.symm.trans (hstops digit _ rfl)
  have hzeros := htrim k
  rw [heq, ← List.append_assoc (List.replicate k '0')] at hzeros
  have hplain := (htrim 0).trans heq
  rw [parse_eq_ok_iff_of_reads hzeros (hreads.zeros k) hstops]
  exact (parse_eq_ok_iff_of_reads hplain hreads hstops).symm

/-! ## The whole of reading -/

/-- What is read as a duration, and what is not. Of the input, the text without the white space at its
ends counts. It is a duration just if it is one or more ASCII digits that say a word and one of the
units, and then the one that they make. Otherwise the fault says what is wrong with it, and every
other text is refused as an argument. So there is no sign, no inner white space and no other digit in
a duration, and zeros before its digits make no difference. -/
theorem parse_grammar (input : String) :
    let text := trim input.toList
    (∃ before after, input.toList = before ++ (text ++ after) ∧
      (∀ c ∈ before, isBlank c = true) ∧ (∀ c ∈ after, isBlank c = true) ∧
        Stops isBlank text ∧ EndsOutside isBlank text) ∧
    (∀ d, parse input = .ok d ↔ Denotes text d.nanoseconds) ∧
    ((∃ d, parse input = .ok d) ↔ ∃ nanos, Denotes text nanos) ∧
    (∀ fault, parse input = .error fault ↔ Refuses input text fault) ∧
    ((∃ fault, parse input = .error fault ∧ fault.failure.kind = .invalidArgument) ↔
      ¬ ∃ nanos, Denotes text nanos) ∧
    (∀ d, parse input = .ok d → ∀ c ∈ text, c.isDigit = true ∨ c = 's' ∨ c = 'm') ∧
    ∀ (before more : List Char) (digit : Char) (k : Nat),
      input = String.ofList (before ++ digit :: more) → (∀ c ∈ before, isBlank c = true) →
      digit.isDigit = true → ∀ d,
        parse (String.ofList (before ++ (List.replicate k '0' ++ digit :: more))) = .ok d ↔
          parse input = .ok d := by
  intro text
  refine ⟨exists_trim input.toList, fun d => parse_eq_ok_iff_denotes, exists_parse_iff,
    fun fault => parse_eq_error_iff, exists_refusal_iff, ?_, ?_⟩
  · exact fun d hparse => (parse_eq_ok_iff_denotes.1 hparse).forall_mem
  · rintro before more digit k rfl hbefore hdigit d
    exact parse_zeros hbefore hdigit k

/-- A count of milliseconds with zeros before it, between white space of different kinds. With a blank
before the unit it is refused. -/
theorem parse_grammar_of_zeros :
    let input := String.ofList (['\u2003', '\t'] ++ '1' :: ['2', '5', '0', 'm', 's', '\n'])
    let zeros := String.ofList
      (['\u2003', '\t'] ++ (List.replicate 30 '0' ++ '1' :: ['2', '5', '0', 'm', 's', '\n']))
    parse input = .ok (ofMillis 1250) ∧ (∀ c ∈ ['\u2003', '\t'], isBlank c = true) ∧
      parse zeros = .ok (ofMillis 1250) ∧ Denotes (trim input.toList) 1250000000 ∧
      parse "1250 ms" = .error (.unknownUnit " ms" "1250 ms") ∧
      (DurationFault.unknownUnit " ms" "1250 ms").failure.kind = .invalidArgument ∧
      (¬ ∃ nanos, Denotes (trim "1250 ms".toList) nanos) ∧
      Refuses "1250 ms" (trim "1250 ms".toList) (.unknownUnit " ms" "1250 ms") := by
  intro input zeros
  have hparse : parse input = .ok (ofMillis 1250) := by decide +kernel
  have hblanks : ∀ c ∈ ['\u2003', '\t'], isBlank c = true := List.all_eq_true.1 (by decide)
  have hblank : parse "1250 ms" = .error (.unknownUnit " ms" "1250 ms") := by decide +kernel
  obtain ⟨-, hdenotes, -, -, -, -, hzeros⟩ := parse_grammar input
  obtain ⟨-, -, -, hrefuses, hrefused, -⟩ := parse_grammar "1250 ms"
  exact ⟨hparse, hblanks,
    (hzeros ['\u2003', '\t'] _ '1' 30 rfl hblanks (by decide) _).2 hparse,
    (hdenotes _).1 hparse, hblank, rfl, hrefused.1 ⟨_, hblank, rfl⟩, (hrefuses _).1 hblank⟩

end RunMeter.Duration
