import RunMeter.Number.Power

/-!
# Saturating 64-bit arithmetic

Bounds, byte totals and durations are 64-bit words that stay at the largest word instead of
wrapping round. Every operation here is pinned to the natural numbers by one lemma
(`toNat_saturatingAdd`, `toNat_saturatingSub`, `toNat_saturatingMul`), so that nothing outside this
file has to look at how words are stored.
-/

set_option autoImplicit false

namespace RunMeter

/-- The largest 64-bit word, as a number. -/
def maxWord : Nat := 2 ^ 64 - 1

/-- The word nearest to a number: the number itself, or the largest word if it does not fit. -/
def clampWord (n : Nat) : UInt64 := UInt64.ofNat (min n maxWord)

theorem toNat_le_maxWord (a : UInt64) : a.toNat ≤ maxWord := by
  have := a.toNat_lt
  simp only [maxWord]
  omega

@[simp]
theorem toNat_clampWord (n : Nat) : (clampWord n).toNat = min n maxWord := by
  have : min n maxWord < 2 ^ 64 := by simp only [maxWord]; omega
  simpa [clampWord, UInt64.toNat_ofNat'] using this

/-- A word is the word nearest to its own number. -/
@[simp]
theorem clampWord_toNat (a : UInt64) : clampWord a.toNat = a := by
  apply UInt64.toNat_inj.1
  have := toNat_le_maxWord a
  rw [toNat_clampWord]
  omega

/-- A number that is not above some word is a word itself. -/
theorem toNat_clampWord_of_le {n : Nat} {a : UInt64} (h : n ≤ a.toNat) :
    (clampWord n).toNat = n := by
  have := toNat_le_maxWord a
  rw [toNat_clampWord]
  omega

/-- Addition that stops at the largest word. -/
def saturatingAdd (a b : UInt64) : UInt64 := clampWord (a.toNat + b.toNat)

/-- Subtraction that stops at zero. -/
def saturatingSub (a b : UInt64) : UInt64 := clampWord (a.toNat - b.toNat)

/-- Multiplication that stops at the largest word. -/
def saturatingMul (a b : UInt64) : UInt64 := clampWord (a.toNat * b.toNat)

@[simp]
theorem toNat_saturatingAdd (a b : UInt64) :
    (saturatingAdd a b).toNat = min (a.toNat + b.toNat) maxWord := by
  simp [saturatingAdd]

@[simp]
theorem toNat_saturatingSub (a b : UInt64) :
    (saturatingSub a b).toNat = a.toNat - b.toNat := by
  have := toNat_le_maxWord a
  simp only [saturatingSub, toNat_clampWord]
  omega

@[simp]
theorem toNat_saturatingMul (a b : UInt64) :
    (saturatingMul a b).toNat = min (a.toNat * b.toNat) maxWord := by
  simp [saturatingMul]

end RunMeter
