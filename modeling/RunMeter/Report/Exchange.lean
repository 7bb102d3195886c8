import RunMeter.Duration
import RunMeter.Json.Printer
import RunMeter.Json.Selection
import RunMeter.Report.Measure
import RunMeter.Reporter
import RunMeter.Trace.Residence

/-!
# Values in JSON documents

The values that documents exchange can be written and read back. A duration is its short notation; a
choice is its name, or an object whose only key is the name and whose value is null; a summary is an
object in which unknown keys are passed over and repeated ones refused, or the list of its six parts.
-/

set_option autoImplicit false

namespace RunMeter

namespace Json

/-- The value of a string. -/
def text? : Json → Option String
  | .string s => some s
  | _ => none

/-- A number as a double. Numbers out of range are refused. -/
def double? : Json → Option Float
  | .number n => if n.toFloat.isFinite then some n.toFloat else none
  | _ => none

/-- A choice by its name. -/
def choice? {α : Type} (ofName? : String → Option α) : Json → Option α
  | .string name => ofName? name
  | .object [(name, .null)] => ofName? name
  | _ => none

/-- The value of a key that occurs exactly once. -/
def soleMember? (key : String) (members : List (String × Json)) : Option Json :=
  match members.filter fun (k, _) => k == key with
  | [(_, value)] => some value
  | _ => none

end Json

/-- Reads a duration. -/
def Duration.ofJson? (value : Json) : Option Duration :=
  value.text?.bind fun text => (Duration.parse text).toOption

/-- Writes a duration. -/
def Duration.toJson (d : Duration) : Json := .string d.render

/-- Reads a reporter. -/
def Reporter.ofJson? : Json → Option Reporter := Json.choice? Reporter.ofName?

/-- Writes a reporter. -/
def Reporter.toJson (reporter : Reporter) : Json := .string reporter.name

/-- Reads a platform. -/
def RssPlatform.ofJson? : Json → Option RssPlatform := Json.choice? RssPlatform.ofName?

/-- Writes a platform. -/
def RssPlatform.toJson (platform : RssPlatform) : Json := .string platform.name

/-- Reads a unit. -/
def Measure.ofJson? : Json → Option Measure := Json.choice? Measure.ofName?

/-- Writes a unit. -/
def Measure.toJson (unit : Measure) : Json := .string unit.name

namespace Summary

/-- A summary from the values of its parts. -/
def ofParts? (count mean median halfRange least largest : Json) : Option Summary := do
  some
    { count := ← count.natural?
      mean := ← mean.double?
      median := ← median.double?
      halfRange := ← halfRange.double?
      least := ← least.double?
      largest := ← largest.double? }

/-- Reads a summary. -/
def ofJson? : Json → Option Summary
  | .array [count, mean, median, halfRange, least, largest] =>
    ofParts? count mean median halfRange least largest
  | .object members => do
    ofParts? (← Json.soleMember? "count" members) (← Json.soleMember? "mean" members)
      (← Json.soleMember? "median" members) (← Json.soleMember? "error" members)
      (← Json.soleMember? "min" members) (← Json.soleMember? "max" members)
  | _ => none

/-- The keys under which an object holds the parts of a summary. -/
def isPart (key : String) : Bool := ["count", "mean", "median", "error", "min", "max"].contains key

/-- Reads a summary from the text of a document. -/
def parse? (text : String) : Option Summary :=
  (Json.parseSelected? isPart text).bind ofJson?

/-- Writes a summary. -/
def toJson (summary : Summary) : Json :=
  .ofMembers
    [("count", .natural summary.count),
      ("mean", .real summary.mean),
      ("median", .real summary.median),
      ("error", .real summary.halfRange),
      ("min", .real summary.least),
      ("max", .real summary.largest)]

end Summary

end RunMeter
