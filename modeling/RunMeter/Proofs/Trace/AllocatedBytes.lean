import Mathlib.Algebra.GroupWithZero.Nat
import RunMeter.Proofs.Number.Reading
import RunMeter.Proofs.Text.LineEnds
import RunMeter.Proofs.Text.Matching
import RunMeter.Trace.Allocation

/-!
# Allocated bytes as a sum over lines

`Allocation.Reports` says what one line reports without a search or a reader: the collection that
begins first decides, if there is one, and its sizes count only if both are words in bytes; else the
line may announce a number. Each line reports one number (`Allocation.reports_iff`).

A total that stops at the largest word whenever it would pass it comes to one comparison at the end,
so that it is the sum of what the lines report or the largest word (`Allocation.toNat_total`). From
the sum follows what becomes of traces that are put together, of lines in another order, and of a
trace that is written row by row: `Allocation.total_eq_clipped_sum`.
-/

set_option autoImplicit false

namespace RunMeter.Allocation

open RunMeter.Text RunMeter.Decimal

/-! ## What one line reports -/

/-- A row of digits of any script, one at least. -/
def IsDigits (digits : List Char) : Prop :=
  digits ≠ [] ∧ ∀ c ∈ digits, isDecimalDigit c = true

/-- A collection stands in a line, behind some of its characters. Its numbers go as far as there are
digits, since a letter follows each of them. -/
def CollectionAt (line skipped before after : List Char) : Prop :=
  (∃ rest, line = skipped ++ (before ++ ("K->".toList ++ (after ++ 'K' :: rest)))) ∧
    IsDigits before ∧ IsDigits after

/-- The digits of the collection in a line that begins first. -/
def FirstCollection (line before after : List Char) : Prop :=
  ∃ skipped, CollectionAt line skipped before after ∧
    ∀ earlier b a, CollectionAt line earlier b a → skipped.length ≤ earlier.length

/-- The bytes that a line reports. -/
inductive Reports (line : List Char) : Nat → Prop
  | collection {before after : List Char} {b a : Nat} (hfirst : FirstCollection line before after)
      (hbefore : Reads before b) (hafter : Reads after a) (hb : b * 1024 < 2 ^ 64)
      (ha : a * 1024 < 2 ^ 64) : Reports line ((b - a) * 1024)
  /-- Sizes that cannot be read or are too large count as nothing, and no other collection does. -/
  | outOfRange {before after : List Char} (hfirst : FirstCollection line before after)
      (hout : ∀ b a, Reads before b → Reads after a → b * 1024 < 2 ^ 64 → 2 ^ 64 ≤ a * 1024) :
      Reports line 0
  | announcement {digits : List Char} {n : Nat}
      (hnone : ∀ skipped before after, ¬ CollectionAt line skipped before after)
      (hline : line = "allocated ".toList ++ digits) (hreads : Reads digits n) (hn : n < 2 ^ 64) :
      Reports line n
  | nothing (hnone : ∀ skipped before after, ¬ CollectionAt line skipped before after)
      (hline : ∀ digits n, line = "allocated ".toList ++ digits → Reads digits n → 2 ^ 64 ≤ n) :
      Reports line 0

theorem isDecimalDigit_K : isDecimalDigit 'K' = false := isDecimalDigit_eq_isDigit (by decide)

theorem IsDigits.head?_ne_plus {digits : List Char} (h : IsDigits digits) :
    digits.head? ≠ some '+' := by
  intro hplus
  have hdigit := h.2 '+' (List.mem_of_head? hplus)
  rw [isDecimalDigit_eq_isDigit (by decide)] at hdigit
  exact absurd hdigit (by decide)

/-- ASCII digits are digits. -/
theorem isDigits_of_reads {digits : List Char} {n : Nat} (h : Reads digits n) : IsDigits digits :=
  ⟨h.1, fun c hc => isDecimalDigit_of_isDigit (h.2.1 c hc)⟩

/-- What is recognised as a collection where a text begins. -/
theorem collection?_eq_some_iff {text before after : List Char} :
    collection? text = some (before, after) ↔ CollectionAt text [] before after := by
  unfold collection? CollectionAt
  constructor
  · intro h
    simp only [Option.bind_eq_bind, Option.bind_eq_some_iff] at h
    obtain ⟨⟨first, left⟩, hfirst, behind, harrow, ⟨second, rest⟩, hsecond, hend⟩ := h
    obtain ⟨rfl, hne, hall, -⟩ := run?_eq_some_iff.1 hfirst
    obtain rfl := after?_eq_some_iff.1 harrow
    obtain ⟨rfl, hne', hall', -⟩ := run?_eq_some_iff.1 hsecond
    dsimp only at hend
    split at hend
    next more =>
      cases hend
      exact ⟨⟨more, rfl⟩, ⟨hne, hall⟩, hne', hall'⟩
    next => cases hend
  · rintro ⟨⟨rest, rfl⟩, hbefore, hafter⟩
    have hfirst := run?_eq_some_iff.2 ⟨rfl, hbefore.1, hbefore.2,
      stops_cons isDecimalDigit_K ("->".toList ++ (after ++ 'K' :: rest))⟩
    have harrow : after? "K->".toList ("K->".toList ++ (after ++ 'K' :: rest)) =
        some (after ++ 'K' :: rest) := after?_eq_some_iff.2 rfl
    have hsecond := run?_eq_some_iff.2 ⟨rfl, hafter.1, hafter.2, stops_cons isDecimalDigit_K rest⟩
    rw [List.nil_append]
    change run? isDecimalDigit (before ++ ("K->".toList ++ (after ++ 'K' :: rest))) = _ at hfirst
    simp only [Option.bind_eq_bind, hfirst, Option.bind_some]
    change (after? "K->".toList ("K->".toList ++ (after ++ 'K' :: rest))).bind _ = _
    simp only [harrow, hsecond, Option.bind_some]

/-- A collection begins in a line just if it is recognised behind what it skips. -/
theorem collectionAt_iff {line skipped before after : List Char} :
    CollectionAt line skipped before after ↔
      ∃ rest, line = skipped ++ rest ∧ collection? rest = some (before, after) := by
  simp only [collection?_eq_some_iff]
  unfold CollectionAt
  constructor
  · rintro ⟨⟨rest, rfl⟩, hdigits⟩
    exact ⟨_, rfl, ⟨rest, rfl⟩, hdigits⟩
  · rintro ⟨_, rfl, ⟨rest, rfl⟩, hdigits⟩
    exact ⟨⟨rest, rfl⟩, hdigits⟩

/-- The search for a collection finds the one that begins first. -/
theorem firstMatch_collection?_eq_some_iff {line before after : List Char} :
    firstMatch collection? line = some (before, after) ↔ FirstCollection line before after := by
  rw [firstMatch_eq_some_iff]
  constructor
  · rintro ⟨skipped, rest, rfl, hcollection, hfirst⟩
    refine ⟨skipped, collectionAt_iff.2 ⟨rest, rfl, hcollection⟩, ?_⟩
    intro earlier b a hat
    obtain ⟨later, hline, hlater⟩ := collectionAt_iff.1 hat
    by_contra hlt
    cases hlater.symm.trans (hfirst earlier later hline (Nat.lt_of_not_le hlt))
  · rintro ⟨skipped, hat, hleast⟩
    obtain ⟨rest, rfl, hcollection⟩ := collectionAt_iff.1 hat
    refine ⟨skipped, rest, rfl, hcollection, ?_⟩
    intro earlier later hline hlt
    rw [Option.eq_none_iff_forall_ne_some]
    rintro ⟨b, a⟩ hlater
    have := hleast earlier b a (collectionAt_iff.2 ⟨later, hline, hlater⟩)
    omega

/-- The search for a collection fails just if there is none. -/
theorem firstMatch_collection?_eq_none_iff {line : List Char} :
    firstMatch collection? line = none ↔
      ∀ skipped before after, ¬ CollectionAt line skipped before after := by
  rw [firstMatch_eq_none_iff]
  constructor
  · intro h skipped before after hat
    obtain ⟨rest, rfl, hcollection⟩ := collectionAt_iff.1 hat
    cases hcollection.symm.trans (h rest (List.suffix_append skipped rest))
  · rintro h rest ⟨skipped, rfl⟩
    rw [Option.eq_none_iff_forall_ne_some]
    rintro ⟨before, after⟩ hcollection
    exact h skipped before after (collectionAt_iff.2 ⟨rest, rfl, hcollection⟩)

/-- Digits are a size just if they say one that is a word in bytes. -/
theorem kibibytes?_eq_some_iff {digits : List Char} (hdigits : IsDigits digits) {size : UInt64} :
    kibibytes? digits = some size ↔
      ∃ n, Reads digits n ∧ n * 1024 < 2 ^ 64 ∧ size.toNat = n * 1024 := by
  unfold kibibytes?
  cases hread : readWord digits with
  | ok w =>
    have hreads := (readWord_eq_ok_iff hdigits.head?_ne_plus).1 hread
    have hproduct : (w * 1024).toNat = w.toNat * 1024 % 2 ^ 64 := UInt64.toNat_mul w 1024
    dsimp only
    split
    next hfits =>
      rw [maxWord] at hfits
      rw [Option.some.injEq, ← UInt64.toNat_inj, hproduct, Nat.mod_eq_of_lt (by omega)]
      constructor
      · intro h
        exact ⟨w.toNat, hreads, by omega, h.symm⟩
      · rintro ⟨n, hn, -, hsize⟩
        rw [hsize, hn.inj hreads]
    next hlarge =>
      rw [maxWord] at hlarge
      constructor
      · intro h
        cases h
      · rintro ⟨n, hn, hfits, -⟩
        rw [hn.inj hreads] at hfits
        omega
  | error fault =>
    constructor
    · intro h
      cases h
    · rintro ⟨n, hn, hfits, -⟩
      have := hn.le_of_readWord hdigits.head?_ne_plus hread
      omega

/-- A line that announces a number does so with digits to its end. -/
theorem announced?_eq_some_iff {line digits : List Char} :
    announced? line = some digits ↔ line = "allocated ".toList ++ digits ∧ IsDigits digits := by
  unfold announced?
  cases hafter : after? "allocated ".toList line with
  | none =>
    refine iff_of_false nofun ?_
    rintro ⟨hline, -⟩
    cases hafter.symm.trans (after?_eq_some_iff.2 hline)
  | some found =>
    have hline := after?_eq_some_iff.1 hafter
    have hdigits : (!found.isEmpty && found.all isDecimalDigit) = true ↔ IsDigits found := by
      simp [IsDigits]
    rw [Option.bind_eq_bind, Option.bind_some]
    split
    next h =>
      rw [Option.some.injEq]
      constructor
      · rintro rfl
        exact ⟨hline, hdigits.1 h⟩
      · rintro ⟨hother, -⟩
        exact List.append_cancel_left (hline.symm.trans hother)
    next h =>
      refine iff_of_false nofun ?_
      rintro ⟨hother, hall⟩
      rw [← List.append_cancel_left (hline.symm.trans hother)] at hall
      exact h (hdigits.2 hall)

/-- The bytes of a line with a collection are the difference of its sizes, if both can be read. -/
theorem ofLine_of_first {line before after : List Char} (h : FirstCollection line before after) :
    ofLine line =
      match kibibytes? before, kibibytes? after with
      | some before, some after => saturatingSub before after
      | _, _ => 0 := by
  have hmatch := firstMatch_collection?_eq_some_iff.2 h
  unfold ofLine
  generalize firstMatch collection? line = found at hmatch ⊢
  subst hmatch
  rfl

/-- The bytes of a line without a collection are those that it announces. -/
theorem ofLine_of_none {line : List Char}
    (h : ∀ skipped before after, ¬ CollectionAt line skipped before after) :
    ofLine line =
      match announced? line with
      | some digits => (readWord digits).toOption.getD 0
      | none => 0 := by
  have hmatch := firstMatch_collection?_eq_none_iff.2 h
  unfold ofLine
  generalize firstMatch collection? line = found at hmatch ⊢
  subst hmatch
  rfl

/-- Sizes of which one is too large give nothing. -/
theorem ofLine_of_outOfRange {line before after : List Char}
    (hfirst : FirstCollection line before after)
    (hout : ∀ b a, Reads before b → Reads after a → b * 1024 < 2 ^ 64 → 2 ^ 64 ≤ a * 1024) :
    ofLine line = 0 := by
  obtain ⟨_, ⟨-, hbefore, hafter⟩, -⟩ := id hfirst
  rw [ofLine_of_first hfirst]
  split
  next size other hsize hother =>
    obtain ⟨b, hreads, hb, -⟩ := (kibibytes?_eq_some_iff hbefore).1 hsize
    obtain ⟨a, hreads', ha, -⟩ := (kibibytes?_eq_some_iff hafter).1 hother
    have := hout b a hreads hreads' hb
    omega
  next => rfl

/-- What a line is said to report is what it is read as. -/
theorem Reports.toNat_ofLine {line : List Char} {n : Nat} (h : Reports line n) :
    (ofLine line).toNat = n := by
  cases h with
  | @collection before after b a hfirst hbefore hafter hb ha =>
    obtain ⟨_, ⟨-, hdigits, hdigits'⟩, -⟩ := id hfirst
    have hword : ∀ {k : Nat}, k * 1024 < 2 ^ 64 → (UInt64.ofNat (k * 1024)).toNat = k * 1024 := by
      intro k hk
      rw [UInt64.toNat_ofNat', Nat.mod_eq_of_lt hk]
    rw [ofLine_of_first hfirst, (kibibytes?_eq_some_iff hdigits).2 ⟨b, hbefore, hb, hword hb⟩,
      (kibibytes?_eq_some_iff hdigits').2 ⟨a, hafter, ha, hword ha⟩]
    dsimp only
    rw [toNat_saturatingSub, hword hb, hword ha, Nat.sub_mul]
  | outOfRange hfirst hout => rw [ofLine_of_outOfRange hfirst hout]; rfl
  | @announcement digits n hnone hline hreads hn =>
    have hword : (UInt64.ofNat n).toNat = n := by rw [UInt64.toNat_ofNat', Nat.mod_eq_of_lt hn]
    have hdigits := isDigits_of_reads hreads
    have hread := (readWord_eq_ok_iff hdigits.head?_ne_plus).2 (hword.symm ▸ hreads)
    rw [ofLine_of_none hnone, announced?_eq_some_iff.2 ⟨hline, hdigits⟩]
    dsimp only
    rw [hread]
    exact hword
  | nothing hnone hline =>
    rw [ofLine_of_none hnone]
    split
    next digits hannounced =>
      obtain ⟨hdigits, hall⟩ := announced?_eq_some_iff.1 hannounced
      cases hread : readWord digits with
      | error fault => rfl
      | ok w =>
        have hreads := (readWord_eq_ok_iff hall.head?_ne_plus).1 hread
        have := hline digits w.toNat hdigits hreads
        have := w.toNat_lt
        omega
    next => rfl

/-- Every line reports something. -/
theorem exists_reports (line : List Char) : ∃ n, Reports line n := by
  cases hmatch : firstMatch collection? line with
  | some sizes =>
    obtain ⟨before, after⟩ := sizes
    have hfirst := firstMatch_collection?_eq_some_iff.1 hmatch
    by_cases hin : ∃ b a, Reads before b ∧ Reads after a ∧ b * 1024 < 2 ^ 64 ∧ a * 1024 < 2 ^ 64
    · obtain ⟨b, a, hbefore, hafter, hb, ha⟩ := hin
      exact ⟨_, .collection hfirst hbefore hafter hb ha⟩
    · refine ⟨0, .outOfRange hfirst ?_⟩
      intro b a hbefore hafter hb
      by_contra ha
      exact hin ⟨b, a, hbefore, hafter, hb, Nat.lt_of_not_le ha⟩
  | none =>
    have hnone := firstMatch_collection?_eq_none_iff.1 hmatch
    by_cases hin : ∃ digits n, line = "allocated ".toList ++ digits ∧ Reads digits n ∧ n < 2 ^ 64
    · obtain ⟨digits, n, hline, hreads, hn⟩ := hin
      exact ⟨n, .announcement hnone hline hreads hn⟩
    · refine ⟨0, .nothing hnone ?_⟩
      intro digits n hline hreads
      by_contra hn
      exact hin ⟨digits, n, hline, hreads, Nat.lt_of_not_le hn⟩

/-- A line reports one number, and that is what it is read as. -/
theorem reports_iff {line : List Char} {n : Nat} : Reports line n ↔ (ofLine line).toNat = n := by
  constructor
  · exact Reports.toNat_ofLine
  · rintro rfl
    obtain ⟨n, h⟩ := exists_reports line
    rw [h.toNat_ofLine]
    exact h

/-! ## The sum over the lines -/

/-- What the lines of a trace report together, without a limit. -/
def unlimited (trace : List Char) : Nat := ((lines trace).map fun line => (ofLine line).toNat).sum

/-- A sum that stops at the largest word is the sum cut off there once. -/
theorem toNat_foldl_saturatingAdd (rows : List (List Char)) (sum : UInt64) :
    (rows.foldl (fun sum line => saturatingAdd sum (ofLine line)) sum).toNat =
      min (sum.toNat + (rows.map fun line => (ofLine line).toNat).sum) maxWord := by
  induction rows generalizing sum with
  | nil =>
    have := toNat_le_maxWord sum
    simp only [List.foldl_nil, List.map_nil, List.sum_nil]
    omega
  | cons line rows ih =>
    rw [List.foldl_cons, ih, toNat_saturatingAdd, List.map_cons, List.sum_cons]
    omega

theorem toNat_total (trace : List Char) : (total trace).toNat = min (unlimited trace) maxWord := by
  rw [total, toNat_foldl_saturatingAdd, unlimited]
  exact congrArg (min · maxWord) (Nat.zero_add _)

/-- Texts whose lines are those of two others report what these report together. -/
theorem unlimited_of_lines {text first second : List Char}
    (h : lines text = lines first ++ lines second) :
    unlimited text = unlimited first + unlimited second := by
  rw [unlimited, h, List.map_append, List.sum_append]
  rfl

theorem unlimited_append {first : List Char} (h : EndsLine first) (second : List Char) :
    unlimited (first ++ second) = unlimited first + unlimited second :=
  unlimited_of_lines (lines_append h second)

theorem total_of_lines {text first second : List Char}
    (h : lines text = lines first ++ lines second) :
    total text = saturatingAdd (total first) (total second) := by
  apply UInt64.toNat_inj.1
  rw [toNat_saturatingAdd, toNat_total, toNat_total, toNat_total, unlimited_of_lines h]
  omega

/-- A trace whose lines end at its end adds to what follows it. -/
theorem total_append {first : List Char} (h : EndsLine first) (second : List Char) :
    total (first ++ second) = saturatingAdd (total first) (total second) :=
  total_of_lines (lines_append h second)

/-- Rows with a line feed behind each report what the rows report. -/
theorem unlimited_flatMap (rows : List (List Char)) :
    unlimited (rows.flatMap (· ++ ['\n'])) =
      (rows.map fun row => unlimited (row ++ ['\n'])).sum := by
  induction rows with
  | nil => rfl
  | cons row rows ih =>
    rw [List.flatMap_cons, unlimited_append (endsLine_concat row), ih, List.map_cons, List.sum_cons]

/-- The order of rows does not matter. -/
theorem total_flatMap_of_perm {rows others : List (List Char)} (h : rows.Perm others) :
    total (rows.flatMap (· ++ ['\n'])) = total (others.flatMap (· ++ ['\n'])) := by
  have hsum := (h.map fun row => unlimited (row ++ ['\n'])).sum_nat
  apply UInt64.toNat_inj.1
  rw [toNat_total, toNat_total, unlimited_flatMap, unlimited_flatMap, hsum]

/-! ## Traces written row by row -/

/-- A row of a trace. -/
inductive Row
  | collection (before after : Nat)
  | announcement (bytes : Nat)
  | other (line : List Char)

namespace Row

/-- The text of a row. -/
def text : Row → List Char
  | .collection before after =>
    Nat.toDigits 10 before ++ ("K->".toList ++ (Nat.toDigits 10 after ++ ['K']))
  | .announcement bytes => "allocated ".toList ++ Nat.toDigits 10 bytes
  | .other line => line

/-- The bytes that a row stands for. -/
def bytes : Row → Nat
  | .collection before after => (before - after) * 1024
  | .announcement bytes => bytes
  | .other _ => 0

/-- The numbers of a row are words, in bytes, and another line has no digits. The size after a
collection may be any number: nothing is given back if it is too large. -/
def InRange : Row → Prop
  | .collection before _ => before * 1024 < 2 ^ 64
  | .announcement bytes => bytes < 2 ^ 64
  | .other line => ∀ c ∈ line, c.isDigit = false

/-- The digits of a number hold no character but digits. -/
theorem notMem_toDigits {c : Char} (hc : c.isDigit = false) (n : Nat) : c ∉ Nat.toDigits 10 n := by
  intro hmem
  rw [(reads_toDigits n).2.1 c hmem] at hc
  cases hc

theorem notMem_text_collection {c : Char} (hdigit : c.isDigit = false) (h : c ∉ "K->".toList)
    (before after : Nat) : c ∉ (collection before after).text := by
  have hletter : c ∉ ['K'] := fun hmem => h (by rw [List.mem_singleton.1 hmem]; simp)
  unfold text
  rw [List.mem_append, List.mem_append, List.mem_append]
  rintro (hmem | hmem | hmem | hmem)
  · exact notMem_toDigits hdigit before hmem
  · exact h hmem
  · exact notMem_toDigits hdigit after hmem
  · exact hletter hmem

theorem notMem_text_announcement {c : Char} (hdigit : c.isDigit = false)
    (h : c ∉ "allocated ".toList) (bytes : Nat) : c ∉ (announcement bytes).text := by
  unfold text
  rw [List.mem_append]
  rintro (hmem | hmem)
  · exact h hmem
  · exact notMem_toDigits hdigit bytes hmem

/-- A collection is what its row reports. -/
theorem reports_collection {before after : Nat} (h : before * 1024 < 2 ^ 64) :
    Reports (collection before after).text ((before - after) * 1024) := by
  have hfirst : FirstCollection (collection before after).text (Nat.toDigits 10 before)
      (Nat.toDigits 10 after) := by
    refine ⟨[], ⟨⟨[], rfl⟩, isDigits_of_reads (reads_toDigits before),
      isDigits_of_reads (reads_toDigits after)⟩, fun _ _ _ _ => Nat.zero_le _⟩
  by_cases hafter : after * 1024 < 2 ^ 64
  · exact .collection hfirst (reads_toDigits before) (reads_toDigits after) h hafter
  · -- A size after the collection that is too large is larger than the one before it.
    have hzero : (before - after) * 1024 = 0 := by omega
    rw [hzero]
    refine .outOfRange hfirst ?_
    intro b a _ ha _
    rw [ha.inj (reads_toDigits after)]
    omega

/-- An announcement is what its row reports. -/
theorem reports_announcement {bytes : Nat} (h : bytes < 2 ^ 64) :
    Reports (announcement bytes).text bytes := by
  refine .announcement ?_ rfl (reads_toDigits bytes) h
  rintro skipped before after ⟨⟨rest, hline⟩, -⟩
  refine notMem_text_announcement (by decide) (by simp) bytes (c := 'K') ?_
  rw [hline]
  simp

/-- A line without ASCII digits reports nothing. -/
theorem reports_zero {line : List Char} (h : ∀ c ∈ line, c.isDigit = false) : Reports line 0 := by
  obtain ⟨n, hreports⟩ := exists_reports line
  have hnone : ∀ {digits : List Char} {n : Nat}, (∀ c ∈ digits, c ∈ line) → ¬ Reads digits n := by
    rintro digits n hmem ⟨hne, hdigits, -⟩
    obtain ⟨c, rest, rfl⟩ := List.exists_cons_of_ne_nil hne
    have hfalse := h c (hmem c List.mem_cons_self)
    rw [hdigits c List.mem_cons_self] at hfalse
    cases hfalse
  cases id hreports with
  | collection hfirst hbefore _ _ _ =>
    obtain ⟨_, ⟨⟨rest, rfl⟩, -⟩, -⟩ := hfirst
    exact absurd hbefore (hnone fun c hc => by simp [hc])
  | outOfRange _ _ => exact hreports
  | announcement _ hline hreads _ =>
    rw [hline] at hnone
    exact absurd hreads (hnone fun c hc => List.mem_append_right _ hc)
  | nothing _ _ => exact hreports

/-- A row reports the bytes that it stands for. -/
theorem unlimited_text {row : Row} (h : row.InRange) :
    unlimited (row.text ++ ['\n']) = row.bytes := by
  have hone : ∀ {line : List Char} {n : Nat}, '\n' ∉ line → '\r' ∉ line → Reports line n →
      unlimited (line ++ ['\n']) = n := by
    intro line n hfeed hreturn hreports
    have hlast : line.getLast? ≠ some '\r' := fun hlast => hreturn (List.mem_of_getLast? hlast)
    rw [unlimited, lines_row hfeed hlast, List.map_singleton, List.sum_singleton]
    exact hreports.toNat_ofLine
  cases row with
  | collection before after =>
    exact hone (notMem_text_collection (by decide) (by simp) before after)
      (notMem_text_collection (by decide) (by simp) before after) (reports_collection h)
  | announcement bytes =>
    exact hone (notMem_text_announcement (by decide) (by simp) bytes)
      (notMem_text_announcement (by decide) (by simp) bytes) (reports_announcement h)
  | other line =>
    have hnothing : ∀ part ∈ lines (line ++ ['\n']), (ofLine part).toNat = 0 := by
      intro part hpart
      refine (reports_zero ?_).toNat_ofLine
      intro c hc
      rcases List.mem_append.1 (mem_of_mem_lines hpart hc) with hmem | hmem
      · exact h c hmem
      · rw [List.mem_singleton.1 hmem]
        rfl
    change unlimited (line ++ ['\n']) = 0
    rw [unlimited, List.sum_eq_zero_iff_forall_eq_nat, List.forall_mem_map]
    exact hnothing

end Row

/-- The trace that is written row by row. -/
def render (rows : List Row) : List Char := (rows.map Row.text).flatMap (· ++ ['\n'])

theorem unlimited_render {rows : List Row} (h : ∀ row ∈ rows, row.InRange) :
    unlimited (render rows) = (rows.map Row.bytes).sum := by
  rw [render, unlimited_flatMap, List.map_map]
  congr 1
  exact List.map_congr_left fun row hrow => Row.unlimited_text (h row hrow)

/-- The bytes that a trace reports are what its lines report together, cut off once at the largest
word. So a trace whose lines end at its end adds to what follows it, rows count the same in any order,
and a trace written row by row from collections, announcements and lines without digits reports what
the collections give back and the announcements say. -/
theorem total_eq_clipped_sum (trace : List Char) :
    (∀ line n, Reports line n ↔ (ofLine line).toNat = n) ∧
    (total trace).toNat =
      min ((lines trace).map fun line => (ofLine line).toNat).sum (2 ^ 64 - 1) ∧
    (∀ before, before = [] ∨ before.getLast? = some '\n' →
      total (before ++ trace) = saturatingAdd (total before) (total trace)) ∧
    (∀ rows others : List (List Char), rows.Perm others →
      total (rows.flatMap (· ++ ['\n'])) = total (others.flatMap (· ++ ['\n']))) ∧
    ∀ rows : List Row, (∀ row ∈ rows, row.InRange) →
      (total (render rows)).toNat = min (rows.map Row.bytes).sum (2 ^ 64 - 1) := by
  refine ⟨fun _ _ => reports_iff, toNat_total trace, ?_, ?_, ?_⟩
  · exact fun before hbefore => total_append hbefore trace
  · exact fun rows others hperm => total_flatMap_of_perm hperm
  · intro rows hrows
    rw [toNat_total, unlimited_render hrows, maxWord]

/-- Two collections, an announcement and a line of another kind, whose size after a collection is
larger than any word in the first row. -/
theorem total_of_four_rows :
    let rows : List Row :=
      [.collection 7 (2 ^ 70), .other "heap".toList, .collection 200 50, .announcement 500]
    (∀ row ∈ rows, row.InRange) ∧ (total (render rows)).toNat = 154100 := by
  intro rows
  have hrows : ∀ row ∈ rows, row.InRange := by
    simp only [rows, List.forall_mem_cons, Row.InRange, List.not_mem_nil, false_implies,
      implies_true, and_true]
    refine ⟨by omega, by simp, by omega, by omega⟩
  refine ⟨hrows, ?_⟩
  rw [(total_eq_clipped_sum []).2.2.2.2 rows hrows]
  decide

end RunMeter.Allocation
