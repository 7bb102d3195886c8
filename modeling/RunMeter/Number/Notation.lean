import RunMeter.Number.Binary64

/-!
# Decimal notations

How a number is written with a given count of digits: with a fixed count of places, with one digit
before the point and a power of ten behind it, or with whichever of the two is shorter. Numbers are
quotients of natural numbers here, so that every digit is exact; what falls away is rounded to the
nearest, a tie to the even digit.
-/

set_option autoImplicit false

namespace RunMeter

/-- A number to be written: finite with its sign and size, or one of the values that are none. -/
inductive Quantity
  /-- A sign and a size `numerator / denominator`. -/
  | finite (isNegative : Bool) (numerator denominator : Nat)
  | infinite (isNegative : Bool)
  | notANumber (isNegative : Bool)
deriving DecidableEq, Repr

namespace Quantity

/-- A double as a quotient. -/
def ofFloat (x : Float) : Quantity :=
  let isNegative := Binary64.isNegative x
  if x.isNaN then .notANumber isNegative
  else if x.isInf then .infinite isNegative
  else
    let (significand, exponent) := Binary64.decode x
    if exponent ≥ 0 then .finite isNegative (significand * 2 ^ exponent.toNat) 1
    else .finite isNegative significand (2 ^ (-exponent).toNat)

/-- Whether a minus sign is written. -/
def isNegative : Quantity → Bool
  | .finite isNegative _ _ => isNegative
  | .infinite isNegative => isNegative
  | .notANumber isNegative => isNegative

/-- The quotient nearest to `n / d` whose numerator has at most `bits` binary digits, a tie going to
the even one. -/
def roundedToBits (bits n d : Nat) : Nat × Nat :=
  if n = 0 then (0, 1)
  else
    let guess : Int := (n.log2 : Int) - (d.log2 : Int) - (bits : Int)
    let (a, b) := Binary64.scaled n d (-guess)
    let exponent := if a / b ≥ 2 ^ bits then guess + 1 else guess
    let (a, b) := Binary64.scaled n d (-exponent)
    let rounded := Binary64.roundHalfEven a b
    if exponent ≥ 0 then (rounded * 2 ^ exponent.toNat, 1) else (rounded, 2 ^ (-exponent).toNat)

/-- The power of ten of the leading digit of `n / d`. -/
def leadingPower (n d : Nat) : Int :=
  if n = 0 then 0
  else
    let guess : Int := (((Nat.toDigits 10 n).length : Int) - (Nat.toDigits 10 d).length)
    -- the leading digit lies at the guess or one place below it
    let isAtLeast (power : Int) : Bool :=
      if power ≥ 0 then d * 10 ^ power.toNat ≤ n else d ≤ n * 10 ^ (-power).toNat
    if isAtLeast guess then guess else guess - 1

/-- `n / d` times a power of ten as a rounded whole number. -/
def shifted (n d : Nat) (power : Int) : Nat :=
  if power ≥ 0 then Binary64.roundHalfEven (n * 10 ^ power.toNat) d
  else Binary64.roundHalfEven n (d * 10 ^ (-power).toNat)

/-- Digits with a point before the last `places` of them. -/
def withPoint (places : Nat) (keepsPoint : Bool) (digits : List Char) : List Char :=
  let padded := List.replicate (places + 1 - digits.length) '0' ++ digits
  let whole := padded.length - places
  padded.take whole ++ if places = 0 && !keepsPoint then [] else '.' :: padded.drop whole

/-- A size with a fixed count of places. -/
def fixed (places : Nat) (keepsPoint : Bool) (n d : Nat) : List Char :=
  withPoint places keepsPoint (Nat.toDigits 10 (shifted n d places))

/-- The rounded digits of a size, `places` of them after the first, and the power of ten of the
first. -/
def leadingDigits (places : Nat) (n d : Nat) : List Char × Int :=
  let power := leadingPower n d
  let digits := Nat.toDigits 10 (shifted n d (places - power))
  if n = 0 then (List.replicate (places + 1) '0', 0)
  else if digits.length > places + 1 then (digits.dropLast, power + 1)
  else (digits, power)

/-- A power of ten as it is written behind digits: a letter, a sign and at least two digits. -/
def powerText (power : Int) : List Char :=
  let digits := Nat.toDigits 10 power.natAbs
  'e' :: (if power < 0 then '-' else '+') :: (List.replicate (2 - digits.length) '0' ++ digits)

/-- A size with one digit before the point and a power of ten. -/
def scientific (places : Nat) (keepsPoint : Bool) (n d : Nat) : List Char :=
  let (digits, power) := leadingDigits places n d
  withPoint places keepsPoint digits ++ powerText power

/-- Digits without the zeros behind their point, and without the point if nothing is left there. -/
def withoutEndZeros (digits : List Char) : List Char :=
  if digits.contains '.' then
    let kept := (digits.reverse.dropWhile (· == '0')).reverse
    if kept.getLast? == some '.' then kept.dropLast else kept
  else digits

/-- A size with at most `precision` digits, in the shorter notation. With `keepsZeros` zeros at the
end are kept. -/
def general (precision : Nat) (keepsZeros : Bool) (n d : Nat) : List Char :=
  let precision := max precision 1
  let (digits, power) := leadingDigits (precision - 1) n d
  if power < -4 || power ≥ precision then
    let mantissa := withPoint (precision - 1) keepsZeros digits
    (if keepsZeros then mantissa else withoutEndZeros mantissa) ++ powerText power
  else
    let text := fixed ((precision : Int) - 1 - power).toNat keepsZeros n d
    if keepsZeros then text else withoutEndZeros text

/-! ## Reading -/

/-- The digits of a notation in a base, with a point among them: the number they make, how many stand
behind the point, and what follows; nothing if there is no digit. -/
def digitsAround? (base : Nat) (digit? : Char → Option Nat) (text : List Char) :
    Option (Nat × Nat × List Char) :=
  let isDigit (c : Char) : Bool := (digit? c).isSome
  let value (digits : List Char) : Nat :=
    digits.foldl (fun n c => n * base + (digit? c).getD 0) 0
  let whole := text.takeWhile isDigit
  let rest := text.drop whole.length
  match rest with
  | '.' :: more =>
    let fraction := more.takeWhile isDigit
    if whole.isEmpty && fraction.isEmpty then none
    else some (value (whole ++ fraction), fraction.length, more.drop fraction.length)
  | rest => if whole.isEmpty then none else some (value whole, 0, rest)

/-- The exponent behind one of two letters, and what follows. It is zero if there is none. -/
def exponentBehind (lower upper : Char) (text : List Char) : Int × List Char :=
  match text with
  | c :: rest =>
    if c == lower || c == upper then
      let (isNegative, digits) := match rest with
        | '-' :: digits => (true, digits)
        | '+' :: digits => (false, digits)
        | digits => (false, digits)
      let taken := digits.takeWhile Char.isDigit
      if taken.isEmpty then (0, text)
      else
        let size : Int := min (Decimal.value taken) 100000
        (if isNegative then -size else size, digits.drop taken.length)
    else (0, text)
  | [] => (0, [])

/-- The value of a hexadecimal digit. -/
def hexDigit? (c : Char) : Option Nat :=
  if c.isDigit then some (c.toNat - 48)
  else if 'a' ≤ c ∧ c ≤ 'f' then some (c.toNat - 87)
  else if 'A' ≤ c ∧ c ≤ 'F' then some (c.toNat - 55)
  else none

/-- The value of a decimal digit. -/
def decimalDigit? (c : Char) : Option Nat := if c.isDigit then some (c.toNat - 48) else none

/-- `n` times a power of a base as a quotient. Powers out of any use are cut off. -/
def powered (base n : Nat) (power : Int) : Nat × Nat :=
  if n = 0 then (0, 1)
  else
    let power := max (-6000) (min 6000 power)
    if power ≥ 0 then (n * base ^ power.toNat, 1) else (n, base ^ (-power).toNat)

/-- The text without a word at its front, whatever its case. -/
def afterWord? (word : String) (text : List Char) : Option (List Char) :=
  if (text.take word.length).map Char.toLower == word.toList then some (text.drop word.length)
  else none

/-- The number at the start of a text, exactly, and what follows; nothing if there is none. -/
def read? (text : List Char) : Option (Quantity × List Char) :=
  let text := text.dropWhile fun c => c == ' ' || ('\t' ≤ c && c ≤ '\r')
  let (isNegative, text) := match text with
    | '-' :: rest => (true, rest)
    | '+' :: rest => (false, rest)
    | text => (false, text)
  let hex? : Option (Quantity × List Char) :=
    match text with
    | '0' :: x :: rest =>
      if x == 'x' || x == 'X' then
        (digitsAround? 16 hexDigit? rest).map fun (n, places, rest) =>
          let (exponent, rest) := exponentBehind 'p' 'P' rest
          let (a, b) := powered 2 n (exponent - 4 * (places : Int))
          (.finite isNegative a b, rest)
      else none
    | _ => none
  match hex? with
  | some found => some found
  | none =>
    match digitsAround? 10 decimalDigit? text with
    | some (n, places, rest) =>
      let (exponent, rest) := exponentBehind 'e' 'E' rest
      let (a, b) := powered 10 n (exponent - (places : Int))
      some (.finite isNegative a b, rest)
    | none =>
      match (afterWord? "infinity" text).orElse fun _ => afterWord? "inf" text with
      | some rest => some (.infinite isNegative, rest)
      | none => (afterWord? "nan" text).map fun rest => (.notANumber isNegative, rest)

/-- The double nearest to a quantity. -/
def toFloat : Quantity → Float
  | .finite isNegative n d =>
    let x := Binary64.ofRatio n d
    if isNegative then -x else x
  | .infinite isNegative => if isNegative then -(1.0 / 0.0) else 1.0 / 0.0
  | .notANumber _ => 0.0 / 0.0

end Quantity

end RunMeter
