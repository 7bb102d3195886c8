import RunMeter.Number.Decimal

/-!
# Binary floating point in exact arithmetic

A finite double is a whole number times a power of two. `decode` and `ofRatio` go between doubles
and exact numbers, the latter rounding to the nearest double with ties to the even one; everything
that reads or prints a double does its arithmetic on natural numbers between these two.
-/

set_option autoImplicit false

namespace RunMeter.Binary64

/-- The exponent of the smallest positive double. -/
def leastExponent : Int := -1074

/-- The pattern of bits of positive infinity. -/
def infinityBits : Nat := 0x7ff0000000000000

/-- Whether the sign bit is set. -/
def isNegative (x : Float) : Bool := x.toBits.toNat / 2 ^ 63 == 1

/-- The size of a finite double as `significand × 2 ^ exponent`. -/
def decode (x : Float) : Nat × Int :=
  let bits : Nat := x.toBits.toNat % 2 ^ 63
  let biased : Nat := bits / 2 ^ 52
  let fraction : Nat := bits % 2 ^ 52
  if biased = 0 then (fraction, leastExponent) else (2 ^ 52 + fraction, (biased : Int) - 1075)

/-- `n × 2 ^ e` over `d` as a quotient of natural numbers. -/
def scaled (n d : Nat) (e : Int) : Nat × Nat :=
  if e ≥ 0 then (n * 2 ^ e.toNat, d) else (n, d * 2 ^ (-e).toNat)

/-- The quotient rounded to a whole number, a tie going to the even neighbour. -/
def roundHalfEven (n d : Nat) : Nat :=
  let quotient := n / d
  let twice := 2 * (n % d)
  if twice > d ∨ (twice = d ∧ quotient % 2 = 1) then quotient + 1 else quotient

/-- The bits of the non-negative double nearest to `n / d`. -/
def bitsOfRatio (n d : Nat) : Nat :=
  if n = 0 then 0
  else
    let guess : Int := max leastExponent ((n.log2 : Int) - (d.log2 : Int) - 53)
    let (a, b) := scaled n d (-guess)
    let exponent := if a / b ≥ 2 ^ 53 then guess + 1 else guess
    let (a, b) := scaled n d (-exponent)
    let bits := (exponent - leastExponent).toNat * 2 ^ 52 + roundHalfEven a b
    min bits infinityBits

/-- The double nearest to `n / d`, with ties to even. -/
def ofRatio (n d : Nat) : Float := Float.ofBits (UInt64.ofNat (bitsOfRatio n d))

/-- The double nearest to `digits × 10 ^ exponent`. Exponents far outside the range of doubles are
not expanded. -/
def ofDecimal (digits : Nat) (exponent : Int) : Float :=
  if digits = 0 then 0.0
  else if exponent > 400 then Float.ofBits (UInt64.ofNat infinityBits)
  else if exponent + (Nat.log2 digits : Int) < -1200 then 0.0
  else if exponent ≥ 0 then ofRatio (digits * 10 ^ exponent.toNat) 1
  else ofRatio digits (10 ^ (-exponent).toNat)

/-- The double nearest to a plain decimal such as `12.50`. -/
def readPlain (text : List Char) : Except Decimal.Fault Float :=
  match Decimal.plainParts? text with
  | some (digits, exponent) => .ok (ofDecimal digits exponent)
  | none => .error .invalidReal

end RunMeter.Binary64
