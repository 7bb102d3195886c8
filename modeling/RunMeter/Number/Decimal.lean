import RunMeter.Number.Power
import RunMeter.Text.Digit

/-!
# Reading numbers written in decimal

Whole numbers are read against a largest value, from the left: the first character that is no digit
and the first digit that makes the number too large are two different faults, and whichever comes
first is the one reported. A leading plus sign is allowed, a minus sign only where negative numbers
are meaningful.
-/

set_option autoImplicit false

namespace RunMeter.Decimal

open RunMeter.Text

/-- Why a text is not the number it was taken for. -/
inductive Fault
  | empty
  | invalidDigit
  | tooLarge
  | tooSmall
  | invalidReal
deriving DecidableEq, Repr

/-- The wording of a fault. -/
def Fault.message : Fault → String
  | .empty => "cannot parse integer from empty string"
  | .invalidDigit => "invalid digit found in string"
  | .tooLarge => "number too large to fit in target type"
  | .tooSmall => "number too small to fit in target type"
  | .invalidReal => "invalid float literal"

/-- Continues the number `value` with more digits, as long as it stays at or below `limit`. -/
def readDigits (limit value : Nat) : List Char → Except Fault Nat
  | [] => .ok value
  | c :: rest =>
    match digitValue? c with
    | none => .error .invalidDigit
    | some digit =>
      let next := value * 10 + digit
      if limit < next then .error .tooLarge else readDigits limit next rest

/-- A whole number from 0 to `limit`. A sign alone is no number. -/
def readUpTo (limit : Nat) : List Char → Except Fault Nat
  | [] => .error .empty
  | '+' :: [] => .error .invalidDigit
  | '+' :: rest => readDigits limit 0 rest
  | text => readDigits limit 0 text

/-- A whole number that fits into a 64-bit word. -/
def readWord (text : List Char) : Except Fault UInt64 :=
  (readUpTo (2 ^ 64 - 1) text).map UInt64.ofNat

/-- A whole number from `-limit - 1` to `limit`. -/
def readSigned (limit : Nat) : List Char → Except Fault Int
  | '-' :: [] => .error .invalidDigit
  | '-' :: rest =>
    match readDigits (limit + 1) 0 rest with
    | .ok value => .ok (-(value : Int))
    | .error .tooLarge => .error .tooSmall
    | .error fault => .error fault
  | text => (readUpTo limit text).map Int.ofNat

/-- The value of a run of ASCII digits. -/
def value (digits : List Char) : Nat :=
  digits.foldl (fun value c => value * 10 + (c.toNat - '0'.toNat)) 0

/-- A plain decimal as `digits × 10 ^ exponent`: digits with at most one point among them, and at
least one digit. -/
def plainParts? (text : List Char) : Option (Nat × Int) :=
  let whole := text.takeWhile Char.isDigit
  match text.dropWhile Char.isDigit with
  | [] => if whole.isEmpty then none else some (value whole, 0)
  | '.' :: fraction =>
    if fraction.all Char.isDigit && !(whole.isEmpty && fraction.isEmpty) then
      some (value (whole ++ fraction), -(fraction.length : Int))
    else none
  | _ => none

end RunMeter.Decimal
