import RunMeter.Number.Shortest

/-!
# Laying out decimal digits

Digits and a decimal exponent become text in one of two ways: positionally, or with one digit before
the point and a power of ten. A `Layout` says which exponents are positional and whether a whole
number keeps its point. Numbers with a fixed count of places are rounded exactly, ties going to the
even digit.
-/

set_option autoImplicit false

namespace RunMeter

/-- How the shortest digits of a double are written. -/
structure Layout where
  /-- The least exponent of a leading digit that is written positionally. -/
  leastPositional : Option Int
  /-- The largest exponent of a leading digit that is written positionally. -/
  largestPositional : Option Int
  /-- What follows the digits of a whole number. -/
  wholeMark : String
  /-- The text of positive infinity. -/
  infinity : String
  /-- The text of a value that is no number. -/
  notANumber : String
deriving Repr

namespace Layout

/-- Digits with the point at its place. -/
def positional (wholeMark : String) (d : Shortest.Digits) : String :=
  let digits := Nat.toDigits 10 d.digits
  if d.exponent ≥ 0 then
    String.ofList (digits ++ List.replicate d.exponent.toNat '0') ++ wholeMark
  else
    let places := (-d.exponent).toNat
    let padded := List.replicate (places + 1 - digits.length) '0' ++ digits
    let whole := padded.length - places
    String.ofList (padded.take whole ++ '.' :: padded.drop whole)

/-- One digit before the point and a signed power of ten behind it. -/
def scientific (d : Shortest.Digits) : String :=
  let digits := Nat.toDigits 10 d.digits
  let leading := d.exponent + (digits.length : Int) - 1
  let mantissa := match digits with
    | [] => []
    | [digit] => [digit]
    | digit :: more => digit :: '.' :: more
  let sign := if leading < 0 then "-" else "+"
  String.ofList mantissa ++ "e" ++ sign ++ toString leading.natAbs

/-- Whether the layout writes these digits positionally. -/
def isPositional (layout : Layout) (d : Shortest.Digits) : Bool :=
  let leading := d.exponent + ((Nat.toDigits 10 d.digits).length : Int) - 1
  layout.leastPositional.all (· ≤ leading) && layout.largestPositional.all (leading ≤ ·)

/-- The sign of a number as it is written. -/
def sign (x : Float) : String := if Binary64.isNegative x then "-" else ""

/-- The shortest text of a double in this layout. -/
def render (layout : Layout) (x : Float) : String :=
  if x.isNaN then layout.notANumber
  else if x.isInf then sign x ++ layout.infinity
  else
    let d := Shortest.ofFloat x
    sign x ++ if layout.isPositional d then positional layout.wholeMark d else scientific d

end Layout

/-- A double with a fixed count of decimal places. -/
def fixedPlaces (places : Nat) (x : Float) : String :=
  if x.isNaN then "NaN"
  else if x.isInf then Layout.sign x ++ "inf"
  else
    let (significand, exponent) := Binary64.decode x
    let (n, d) := Binary64.scaled (significand * 10 ^ places) 1 exponent
    let rounded := Binary64.roundHalfEven n d
    let digits := Nat.toDigits 10 rounded
    let padded := List.replicate (places + 1 - digits.length) '0' ++ digits
    let whole := padded.length - places
    let fraction := padded.drop whole
    Layout.sign x ++ String.ofList (padded.take whole) ++
      if fraction.isEmpty then "" else "." ++ String.ofList fraction

end RunMeter
