import RunMeter.Failure
import RunMeter.Number.Decimal
import RunMeter.Saturating
import RunMeter.Text.Blank
import RunMeter.Text.Quoted

/-!
# Durations

A span of time in whole seconds and nanoseconds, and its short notation: a number of seconds (`7`,
`60s`), milliseconds (`500ms`) or minutes (`2m`). `Duration.parse` reads the notation and
`Duration.render` writes it, using seconds for whole seconds and milliseconds otherwise; anything
below a millisecond is not written.
-/

set_option autoImplicit false

namespace RunMeter

open RunMeter.Text

/-- A span of time. -/
structure Duration where
  seconds : UInt64
  nanos : Nat
  nanos_lt : nanos < 1000000000 := by omega
deriving DecidableEq, Repr

/-- Why a text is no duration. -/
inductive DurationFault
  | noDigits (input : String)
  | unreadable (input : String) (cause : Decimal.Fault)
  | unknownUnit (unit input : String)
deriving DecidableEq, Repr

/-- The wording of a fault. -/
def DurationFault.message : DurationFault → String
  | .noDigits input =>
    "invalid duration " ++ quote input ++ " (expected e.g. 500ms, 60s, 2m)"
  | .unreadable input cause => "invalid duration " ++ quote input ++ ": " ++ cause.message
  | .unknownUnit unit input => "invalid duration unit " ++ quote unit ++ " in " ++ quote input

/-- A text that is no duration is an argument of no use. -/
def DurationFault.failure (fault : DurationFault) : Failure :=
  { kind := .invalidArgument, detail := fault.message }

namespace Duration

/-- A whole number of seconds. -/
def ofSeconds (seconds : UInt64) : Duration := { seconds, nanos := 0 }

/-- A whole number of milliseconds. -/
def ofMillis (millis : UInt64) : Duration :=
  { seconds := UInt64.ofNat (millis.toNat / 1000)
    nanos := millis.toNat % 1000 * 1000000 }

/-- The empty span. -/
def zero : Duration := ofSeconds 0

/-- The whole milliseconds in a span. -/
def millis (d : Duration) : Nat := d.seconds.toNat * 1000 + d.nanos / 1000000

/-- The span in seconds. -/
def toSeconds (d : Duration) : Float :=
  d.seconds.toFloat + (UInt64.ofNat d.nanos).toFloat / 1e9

/-- The span that `value` units make, if the unit is known. -/
def ofUnit? (value : UInt64) : (unit : List Char) → Option Duration
  | [] => some (ofSeconds value)
  | ['s'] => some (ofSeconds value)
  | ['m', 's'] => some (ofMillis value)
  | ['m'] => some (ofSeconds (saturatingMul value 60))
  | _ => none

/-- Reads a span in its short notation. White space around it does not matter. -/
def parse (input : String) : Except DurationFault Duration :=
  let text := trim input.toList
  let digits := text.takeWhile Char.isDigit
  let unit := text.dropWhile Char.isDigit
  if digits.isEmpty then .error (.noDigits input)
  else
    match Decimal.readWord digits with
    | .error cause => .error (.unreadable input cause)
    | .ok value =>
      match ofUnit? value unit with
      | some d => .ok d
      | none => .error (.unknownUnit (String.ofList unit) input)

/-- Writes a span in its short notation. -/
def render (d : Duration) : String :=
  if d.millis % 1000 = 0 then toString (d.millis / 1000) ++ "s" else toString d.millis ++ "ms"

end Duration

end RunMeter
