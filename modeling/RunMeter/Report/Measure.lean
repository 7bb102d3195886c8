import RunMeter.Json.Value
import RunMeter.Report.ByteSize
import RunMeter.Summary

/-!
# Units of measure

Each metric has a unit, and the unit decides how a series is summed up in words and how its values
are written in the document: bytes and counts are whole, seconds and mebibytes are not.
-/

set_option autoImplicit false

namespace RunMeter

/-- What the values of a series measure. -/
inductive Measure
  | bytes
  | seconds
  | mebibytes
  | count
deriving DecidableEq, Repr

namespace Measure

/-- The name of a unit in documents. -/
def name : Measure → String
  | .bytes => "bytes"
  | .seconds => "seconds"
  | .mebibytes => "mebibytes"
  | .count => "count"

/-- All units. -/
def all : List Measure := [.bytes, .seconds, .mebibytes, .count]

/-- The unit with a name. -/
def ofName? (name : String) : Option Measure := all.find? fun unit => unit.name == name

/-- A series in words. -/
def human (unit : Measure) (name : String) (summary : Summary) : String :=
  match unit with
  | .bytes =>
    humanSize summary.median.toUInt64 ++ " ± " ++ humanSize summary.halfRange.toUInt64
  | .seconds => fixedPlaces 3 summary.mean ++ " " ++ name
  | .mebibytes => name ++ " " ++ fixedPlaces 2 summary.mean ++ " MB"
  | .count => toString summary.mean.round.toUInt64.toNat ++ " " ++ name

/-- A value in the document. -/
def document (unit : Measure) (value : Float) : Json :=
  match unit with
  | .bytes | .count => .natural value.toUInt64.toNat
  | .seconds | .mebibytes => .real value

end Measure

end RunMeter
