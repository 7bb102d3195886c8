import Mathlib.Data.List.Basic
import RunMeter.Json.Printer
import RunMeter.Json.Reader

/-!
# Strings in JSON are read as they were written

A character inside quotes is written as itself, by a short escape, or by its code point in four
hexadecimal digits, and each way is read back as that one character (`readChars?_escapeChar`). So a
string that is written is read as it was (`parse?_render_string`).
-/

set_option autoImplicit false

namespace RunMeter.Json

/-- The four digits of a character that has no short escape. -/
theorem controlDigits {n : Nat} (h : n < 0x20) :
    ("00" ++ (if n < 0x10 then "0" else "") ++ Text.hexDigits n).toList =
        ['0', '0', Nat.digitChar (n / 16), Nat.digitChar (n % 16)] ∧
      hexValue? (Nat.digitChar (n / 16)) = some (n / 16) ∧
      hexValue? (Nat.digitChar (n % 16)) = some (n % 16) := by
  revert n
  decide +kernel

/-- A control character is read from its code point. -/
theorem readCodePoint?_control {c : Char} (h : c.toNat < 0x20) (rest : List Char) :
    readCodePoint? ('0' :: '0' :: Nat.digitChar (c.toNat / 16) :: Nat.digitChar (c.toNat % 16) ::
      rest) = some (c, rest) := by
  obtain ⟨-, hhigh, hlow⟩ := controlDigits h
  have hzero : hexValue? '0' = some 0 := by decide
  have hvalue : ((0 * 16 + 0) * 16 + c.toNat / 16) * 16 + c.toNat % 16 = c.toNat := by omega
  have hunit : readUnit? ('0' :: '0' :: Nat.digitChar (c.toNat / 16) ::
      Nat.digitChar (c.toNat % 16) :: rest) = some (c.toNat, rest) := by
    simp only [readUnit?, hzero, hhigh, hlow, Option.bind_eq_bind, Option.bind_some, hvalue]
  unfold readCodePoint?
  rw [hunit, Option.bind_eq_bind, Option.bind_some]
  dsimp only
  rw [if_neg (by omega), if_neg (by omega), Char.ofNat_toNat]

/-- A character that needs no escape is read as itself. -/
theorem readChars?_plain {c : Char} (hquote : c ≠ '"') (hslash : c ≠ '\\') (h : ¬ c.toNat < 0x20)
    (fuel : Nat) (collected rest : List Char) :
    readChars? (fuel + 1) collected (c :: rest) = readChars? fuel (c :: collected) rest := by
  rw [readChars?]
  · rw [if_neg]
    rintro (hcontrol | heq)
    · exact h hcontrol
    · exact hslash heq
  · exact hquote
  · rintro behind heq -
    exact hslash heq
  · rintro next behind heq -
    exact hslash heq

/-- What is written for a character is read as that character. -/
theorem readChars?_escapeChar (c : Char) (fuel : Nat) (collected rest : List Char) :
    readChars? (fuel + 1) collected ((escapeChar c).toList ++ rest) =
      readChars? fuel (c :: collected) rest := by
  unfold escapeChar
  split
  all_goals try rfl
  next hquote hslash hfeed hreturn htab hback hform =>
    split
    next hcontrol =>
      have htext : ("\\u00" ++ (if c.toNat < 0x10 then "0" else "") ++
          Text.hexDigits c.toNat).toList ++ rest =
          '\\' :: 'u' :: '0' :: '0' :: Nat.digitChar (c.toNat / 16) ::
            Nat.digitChar (c.toNat % 16) :: rest := by
        have hdigits := (controlDigits hcontrol).1
        rw [String.toList_append, String.toList_append] at hdigits ⊢
        exact congrArg (fun digits => '\\' :: 'u' :: (digits ++ rest)) hdigits
      rw [htext, readChars?, readCodePoint?_control hcontrol]
      rfl
    next hcontrol =>
      rw [Char.toString_eq_singleton, String.toList_singleton, List.singleton_append]
      exact readChars?_plain hquote hslash hcontrol fuel collected rest

/-- A string is read up to its closing quote, given that the reader gets that far. -/
theorem readChars?_string (chars : List Char) {fuel : Nat} (hfuel : chars.length < fuel)
    (collected rest : List Char) :
    readChars? fuel collected (chars.flatMap (fun c => (escapeChar c).toList) ++ '"' :: rest) =
      some (String.ofList (collected.reverse ++ chars), rest) := by
  induction chars generalizing fuel collected with
  | nil =>
    obtain ⟨more, rfl⟩ := Nat.exists_eq_succ_of_ne_zero (Nat.ne_of_gt hfuel)
    rw [List.append_nil]
    rfl
  | cons c chars ih =>
    obtain ⟨more, rfl⟩ := Nat.exists_eq_succ_of_ne_zero (Nat.ne_of_gt (Nat.zero_lt_of_lt hfuel))
    rw [List.flatMap_cons, List.append_assoc, readChars?_escapeChar,
      ih (Nat.lt_of_succ_lt_succ hfuel), List.reverse_cons, List.append_assoc]
    rfl

theorem one_le_length_escapeChar (c : Char) : 1 ≤ (escapeChar c).toList.length := by
  unfold escapeChar
  split
  all_goals try decide
  split
  · rw [String.toList_append, String.toList_append, List.length_append, List.length_append]
    have hstart : "\\u00".toList.length = 4 := by decide
    omega
  · rw [Char.toString_eq_singleton, String.toList_singleton]
    exact Nat.le_refl 1

/-- A string takes as many characters as it has, at least. -/
theorem length_le_flatMap_escapeChar (chars : List Char) :
    chars.length ≤ (chars.flatMap fun c => (escapeChar c).toList).length := by
  induction chars with
  | nil => exact Nat.le_refl 0
  | cons c chars ih =>
    have := one_le_length_escapeChar c
    rw [List.flatMap_cons, List.length_append, List.length_cons]
    omega

/-- A string that is written is read as it was. -/
theorem parse?_render_string (s : String) : parse? (render (.string s)) = some (.string s) := by
  have htext : (render (.string s)).toList =
      '"' :: (s.toList.flatMap (fun c => (escapeChar c).toList) ++ ['"']) := by
    simp only [render, renderString, String.toList_append, String.toList_join, List.flatMap_map]
    rfl
  have hread : readString? (s.toList.flatMap (fun c => (escapeChar c).toList) ++ ['"']) =
      some (s, []) := by
    have hlength := length_le_flatMap_escapeChar s.toList
    rw [readString?, readChars?_string]
    · simp
    · rw [List.length_append]
      omega
  have hblank : isSpace '"' = false := by decide
  rw [parse?, htext]
  simp only [readValue?, skipSpace, List.dropWhile_cons, hblank, Bool.false_eq_true, if_false, hread,
    Option.map_some, List.dropWhile_nil, List.isEmpty_nil, if_true]

end RunMeter.Json
