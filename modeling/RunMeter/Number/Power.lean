/-!
# Powers

A power with a natural exponent is the one that the core library defines, whatever else a module
imports. So a bound that is written as a power is the same term wherever it is read.
-/

set_option autoImplicit false

namespace RunMeter

universe u

/-- The power of the core library, which comes before any other. -/
@[default_instance high+1]
instance natPower {α : Type u} [NatPow α] : Pow α Nat := instPowNat

end RunMeter
