import RunMeter.Command
import RunMeter.Text.Blank
import RunMeter.Text.Match
import RunMeter.Trace.Absent

/-!
# Peak resident memory

The `time` tool reports the peak resident set of a program in one of two formats: GNU `time -v`
writes kibibytes after a label, BSD `time -l` writes bytes before one. A platform stands for its
format; it wraps a command in the tool and reads the tool's report in mebibytes.
-/

set_option autoImplicit false

namespace RunMeter

open RunMeter.Text

/-- Whose `time` tool makes the report. -/
inductive RssPlatform
  | linux
  | macos
deriving DecidableEq, Repr

namespace RssPlatform

/-- The name of a platform in settings. -/
def name : RssPlatform → String
  | .linux => "linux"
  | .macos => "macos"

/-- All platforms. -/
def all : List RssPlatform := [.linux, .macos]

/-- The platform with a name. -/
def ofName? (name : String) : Option RssPlatform := all.find? fun platform => platform.name == name

/-- Runs a command behind the `time` tool. -/
def wrap (platform : RssPlatform) (command : Command) : Command :=
  match platform with
  | .linux => command.wrapped "/usr/bin/time" ["-v", "--"]
  | .macos => command.wrapped "/usr/bin/time" ["-l", "--"]

/-- The label of the peak in kibibytes. -/
def kibibyteLabel : String := "Maximum resident set size (kbytes)"

/-- The label of the peak in bytes. -/
def byteLabel : String := "maximum resident set size"

/-- The label of a platform's report. -/
def label : RssPlatform → String
  | .linux => kibibyteLabel
  | .macos => byteLabel

/-- The digits after the kibibyte label at the start of a text. -/
def afterLabel? (text : List Char) : Option (List Char) := do
  let rest ← after? (kibibyteLabel ++ ": ").toList text
  let (digits, _) ← run? isDecimalDigit rest
  some digits

/-- The digits before the byte label at the start of a text. -/
def beforeLabel? (text : List Char) : Option (List Char) := do
  let (digits, rest) ← run? isDecimalDigit text
  let (_, rest) ← run? isBlank rest
  let _ ← after? byteLabel.toList rest
  some digits

/-- The digits of the peak at the start of a text. -/
def peak? : RssPlatform → List Char → Option (List Char)
  | .linux => afterLabel?
  | .macos => beforeLabel?

/-- The number of a report's peak. -/
def readPeak (platform : RssPlatform) (report : List Char) : Except Absence UInt64 :=
  match firstMatch platform.peak? report with
  | none => .error (.noLine platform.label)
  | some digits =>
    match Decimal.readWord digits with
    | .ok n => .ok n
    | .error cause => .error (.unreadable platform.label cause)

/-- The number of a report's peak in mebibytes. -/
def toMebibytes (platform : RssPlatform) (n : UInt64) : Float :=
  match platform with
  | .linux => n.toFloat / 1024.0
  | .macos => n.toFloat / 1024.0 / 1024.0

/-- The peak of a report in mebibytes. -/
def parse (platform : RssPlatform) (report : List Char) : Except Absence Float :=
  (platform.readPeak report).map platform.toMebibytes

end RssPlatform

end RunMeter
