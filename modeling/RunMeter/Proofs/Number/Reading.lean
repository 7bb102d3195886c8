import Mathlib.Data.List.Basic
import RunMeter.Number.Decimal

/-!
# What the readers of decimal numbers accept

A reader goes through the digits with the number read so far and stops at the first digit that makes
it too large. Since more digits never make a number smaller, that comes to a single comparison at the
end (`Decimal.readDigits_eq_ok_iff`). `Decimal.Reads` is what a text of ASCII digits says, without a
limit, and `Decimal.readWord_eq_ok_iff` ties the reader of words to it. The digits of a number say
that number (`Decimal.reads_toDigits`).
-/

set_option autoImplicit false

namespace RunMeter.Decimal

open RunMeter.Text

/-- A text of ASCII digits, one at least, and the number that they say. -/
def Reads (digits : List Char) (n : Nat) : Prop :=
  digits ≠ [] ∧ (∀ c ∈ digits, c.isDigit = true) ∧ Nat.ofDigitChars 10 digits 0 = n

/-- Digits say one number. -/
theorem Reads.inj {digits : List Char} {n m : Nat} (h : Reads digits n) (h' : Reads digits m) :
    n = m := h.2.2.symm.trans h'.2.2

/-- The digits of a number say it. -/
theorem reads_toDigits (n : Nat) : Reads (Nat.toDigits 10 n) n :=
  ⟨Nat.toDigits_ne_nil, fun _ hc => Nat.isDigit_of_mem_toDigits (by decide) (by decide) hc,
    Nat.ofDigitChars_ten_toDigits⟩

/-- Zeros before digits say nothing. -/
theorem Reads.zeros {digits : List Char} {v : Nat} (h : Reads digits v) (k : Nat) :
    Reads (List.replicate k '0' ++ digits) v := by
  induction k with
  | zero => exact h
  | succ k ih =>
    obtain ⟨hne, hall, hvalue⟩ := ih
    refine ⟨List.cons_ne_nil _ _, List.forall_mem_cons.2 ⟨by decide, hall⟩, ?_⟩
    rw [List.replicate_succ, List.cons_append, Nat.ofDigitChars_cons]
    exact hvalue

/-- More digits do not make a number smaller. -/
theorem le_ofDigitChars (value : Nat) (digits : List Char) :
    value ≤ Nat.ofDigitChars 10 digits value := by
  induction digits generalizing value with
  | nil => exact Nat.le_refl value
  | cons c digits ih =>
    rw [Nat.ofDigitChars_cons]
    have := ih (10 * value + (c.toNat - '0'.toNat))
    omega

theorem digitValue?_of_isDigit {c : Char} (h : c.isDigit = true) :
    digitValue? c = some (c.toNat - '0'.toNat) := if_pos h

theorem digitValue?_of_not_isDigit {c : Char} (h : ¬ c.isDigit = true) : digitValue? c = none :=
  if_neg h

/-- Digits behind a number are read if all of them are ASCII digits and the whole is within the
limit. -/
theorem readDigits_eq_ok_iff {limit value n : Nat} {digits : List Char} (hvalue : value ≤ limit) :
    readDigits limit value digits = .ok n ↔
      (∀ c ∈ digits, c.isDigit = true) ∧ Nat.ofDigitChars 10 digits value = n ∧ n ≤ limit := by
  induction digits generalizing value with
  | nil =>
    rw [readDigits, Nat.ofDigitChars_nil, Except.ok.injEq]
    constructor
    · rintro rfl
      exact ⟨nofun, rfl, hvalue⟩
    · exact fun h => h.2.1
  | cons c digits ih =>
    rw [readDigits, Nat.ofDigitChars_cons, List.forall_mem_cons]
    by_cases hdigit : c.isDigit = true
    · rw [digitValue?_of_isDigit hdigit, Nat.mul_comm 10 value]
      dsimp only
      split
      next hlimit =>
        -- The number is too large already, and more digits keep it so.
        have hgrows := le_ofDigitChars (value * 10 + (c.toNat - '0'.toNat)) digits
        constructor
        · intro h
          cases h
        · rintro ⟨-, rfl, hle⟩
          omega
      next hlimit =>
        rw [ih (Nat.le_of_not_lt hlimit)]
        simp only [hdigit, true_and]
    · rw [digitValue?_of_not_isDigit hdigit]
      constructor
      · intro h
        cases h
      · rintro ⟨⟨hc, -⟩, -⟩
        exact absurd hc hdigit

/-- Without a sign the reader of limited numbers reads digits. -/
theorem readUpTo_of_not_plus {limit : Nat} {text : List Char} (hne : text ≠ [])
    (hplus : text.head? ≠ some '+') : readUpTo limit text = readDigits limit 0 text := by
  cases text with
  | nil => exact absurd rfl hne
  | cons c text =>
    have hc : c ≠ '+' := fun h => hplus (congrArg some h)
    unfold readUpTo
    split
    next heq => cases heq
    next heq => exact absurd (List.cons.inj heq).1 hc
    next heq => exact absurd (List.cons.inj heq).1 hc
    next => rfl

/-- A text without a sign is read as a word just if it says the number of that word. -/
theorem readWord_eq_ok_iff {text : List Char} (hplus : text.head? ≠ some '+') {w : UInt64} :
    readWord text = .ok w ↔ Reads text w.toNat := by
  unfold readWord
  by_cases hne : text = []
  · rw [hne]
    constructor
    · intro h
      cases h
    · rintro ⟨hnil, -⟩
      exact absurd rfl hnil
  rw [readUpTo_of_not_plus hne hplus]
  constructor
  · intro h
    cases hread : readDigits (2 ^ 64 - 1) 0 text with
    | error fault =>
      rw [hread] at h
      cases h
    | ok n =>
      rw [hread] at h
      cases h
      obtain ⟨hdigits, hvalue, hlimit⟩ := (readDigits_eq_ok_iff (Nat.zero_le _)).1 hread
      refine ⟨hne, hdigits, ?_⟩
      rw [hvalue, UInt64.toNat_ofNat']
      omega
  · rintro ⟨-, hdigits, hvalue⟩
    have hlimit := w.toNat_lt
    rw [(readDigits_eq_ok_iff (Nat.zero_le _)).2 ⟨hdigits, hvalue, by omega⟩]
    exact congrArg Except.ok (UInt64.ofNat_toNat)

/-- Digits carry no sign. -/
theorem Reads.head?_ne_plus {digits : List Char} {n : Nat} (h : Reads digits n) :
    digits.head? ≠ some '+' := by
  intro hplus
  cases h.2.1 '+' (List.mem_of_head? hplus)

/-- The one fault of digits is that they say too large a number. -/
theorem eq_tooLarge_of_readDigits {limit value : Nat} {digits : List Char} {fault : Fault}
    (hdigits : ∀ c ∈ digits, c.isDigit = true)
    (hfault : readDigits limit value digits = .error fault) : fault = .tooLarge := by
  induction digits generalizing value with
  | nil => cases hfault
  | cons c digits ih =>
    rw [List.forall_mem_cons] at hdigits
    rw [readDigits, digitValue?_of_isDigit hdigits.1] at hfault
    dsimp only at hfault
    split at hfault
    · cases hfault
      rfl
    · exact ih hdigits.2 hfault

/-- Digits are read as the word of the number that they say, and as none if there is no such word. -/
theorem Reads.readWord_eq {digits : List Char} {n : Nat} (h : Reads digits n) :
    readWord digits = if n < 2 ^ 64 then .ok (UInt64.ofNat n) else .error .tooLarge := by
  split
  next hlt =>
    have hword : (UInt64.ofNat n).toNat = n := by
      rw [UInt64.toNat_ofNat']
      omega
    exact (readWord_eq_ok_iff h.head?_ne_plus).2 (hword.symm ▸ h)
  next hlarge =>
    unfold readWord
    rw [readUpTo_of_not_plus h.1 h.head?_ne_plus]
    cases hread : readDigits (2 ^ 64 - 1) 0 digits with
    | ok m =>
      obtain ⟨-, hm, hlimit⟩ := (readDigits_eq_ok_iff (Nat.zero_le _)).1 hread
      have hsame : n = m := h.2.2.symm.trans hm
      omega
    | error fault =>
      rw [eq_tooLarge_of_readDigits h.2.1 hread]
      rfl

/-- A number that is not read as a word does not fit into one. -/
theorem Reads.le_of_readWord {text : List Char} {n : Nat} (h : Reads text n)
    (hplus : text.head? ≠ some '+') {fault : Fault} (hfault : readWord text = .error fault) :
    2 ^ 64 ≤ n := by
  by_contra hlt
  have hword : (UInt64.ofNat n).toNat = n := by
    rw [UInt64.toNat_ofNat']
    omega
  rw [(readWord_eq_ok_iff hplus).2 (hword.symm ▸ h)] at hfault
  cases hfault

end RunMeter.Decimal
