import RunMeter.Number.Binary64

/-!
# The shortest decimal that reads back

Among the decimals that round to a given double, the shortest is printed, and of the shortest the
one nearest to the double; of two that are as near, the even one. The decimals of at most `n` digits
form a grid; if any grid point rounds to the double, one of the two neighbours of the double on that
grid does, so it is enough to look at those two for n = 1, 2, …, 17.
-/

set_option autoImplicit false

namespace RunMeter.Shortest

open RunMeter.Binary64

/-- A decimal `digits × 10 ^ exponent`. -/
structure Digits where
  digits : Nat
  exponent : Int
deriving DecidableEq, Repr

/-- The reals that round to `significand × 2 ^ exponent`, as bounds in units of
`2 ^ (exponent - 2)`. The lower half of the gap is shorter below a power of two. -/
def roundingBounds (significand : Nat) (exponent : Int) : Nat × Nat :=
  let lower := if significand = 2 ^ 52 ∧ exponent > leastExponent then 1 else 2
  (4 * significand - lower, 4 * significand + 2)

/-- Compares `a × 10 ^ k` with `b × 2 ^ e`. -/
def compareScaled (a : Nat) (k : Int) (b : Nat) (e : Int) : Ordering :=
  let left := a * 10 ^ k.toNat * 2 ^ (-e).toNat
  let right := b * 2 ^ e.toNat * 10 ^ (-k).toNat
  compare left right

/-- Whether `candidate × 10 ^ k` rounds to `significand × 2 ^ exponent`. The bounds themselves do if
the significand is even. -/
def roundsTo (significand : Nat) (exponent : Int) (candidate : Nat) (k : Int) : Bool :=
  let (low, high) := roundingBounds significand exponent
  let aboveLow := compareScaled candidate k low (exponent - 2)
  let belowHigh := compareScaled candidate k high (exponent - 2)
  let isEven := significand % 2 == 0
  (aboveLow == .gt || (isEven && aboveLow == .eq)) &&
    (belowHigh == .lt || (isEven && belowHigh == .eq))

/-- Whether of the two neighbours of `significand × 2 ^ exponent` on the grid of multiples of
`10 ^ k` the larger one is taken, `floor × 10 ^ k` being the smaller: the nearer one is, and the even
one if both are as near. -/
def takesUpper (significand : Nat) (exponent : Int) (floor : Nat) (k : Int) : Bool :=
  match compareScaled (2 * floor + 1) k (2 * significand) exponent with
  | .lt => true
  | .eq => floor % 2 == 1
  | .gt => false

/-- The grid point `10 ^ k × n` that rounds to the double and is nearest to it, if there is one. -/
def onGrid? (significand : Nat) (exponent : Int) (k : Int) : Option Nat :=
  let num := significand * 2 ^ exponent.toNat * 10 ^ (-k).toNat
  let den := 2 ^ (-exponent).toNat * 10 ^ k.toNat
  let floor := num / den
  let floorFits := roundsTo significand exponent floor k
  let ceilingFits := roundsTo significand exponent (floor + 1) k
  match floorFits, ceilingFits with
  | true, true => some (if takesUpper significand exponent floor k then floor + 1 else floor)
  | true, false => some floor
  | false, true => some (floor + 1)
  | false, false => none

/-- The decimal exponent of the leading digit of `significand × 2 ^ exponent`. -/
def leadingExponent (significand : Nat) (exponent : Int) : Int :=
  let num := significand * 2 ^ exponent.toNat
  let den := 2 ^ (-exponent).toNat
  if den ≤ num then ((Nat.toDigits 10 (num / den)).length : Int) - 1
  else
    let up := (Nat.toDigits 10 (den / num)).length
    -- 10 ^ (up - 1) ≤ den / num, so the number lies between 10 ^ -up and 10 ^ (1 - up)
    if num * 10 ^ (up - 1) = den then 1 - (up : Int) else -(up : Int)

/-- Tries the grids of `n` digits and more, at most `fuel` of them. -/
def search (significand : Nat) (exponent : Int) (leading : Int) : (fuel n : Nat) → Digits
  | 0, n => ⟨significand, leading - n⟩
  | fuel + 1, n =>
    let k := leading - (n : Int) + 1
    match onGrid? significand exponent k with
    | some digits => ⟨digits, k⟩
    | none => search significand exponent leading fuel (n + 1)

/-- Removes the zeros at the end of the digits, at most `fuel` of them. -/
def dropZeros : (fuel : Nat) → Digits → Digits
  | 0, d => d
  | fuel + 1, d =>
    if d.digits % 10 = 0 ∧ d.digits ≠ 0 then dropZeros fuel ⟨d.digits / 10, d.exponent + 1⟩ else d

/-- The shortest decimal that reads back as the size of a finite double. -/
def ofFloat (x : Float) : Digits :=
  let (significand, exponent) := decode x
  if significand = 0 then ⟨0, 0⟩
  else
    dropZeros 20 (search significand exponent (leadingExponent significand exponent) 18 1)

end RunMeter.Shortest
