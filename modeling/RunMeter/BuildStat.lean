import RunMeter.Files
import RunMeter.Log
import RunMeter.Report.Document
import RunMeter.Trace.BuildLog

/-!
# Statistics of a build

One number is read from what a build has left: the size of its binary, or its total time or its
count of run-time compiled methods from its log. If there is no such number the statistic is
reported as unavailable, with a warning; that is no failure.
-/

set_option autoImplicit false

namespace RunMeter

/-- The statistic that is asked for, and the file it is read from. -/
inductive BuildStatCommand
  | binarySize (binary : String)
  | buildTime (log : String)
  | runtimeMethods (log : String)
deriving DecidableEq, Repr

namespace BuildStatCommand

/-- The name of a statistic. -/
def statistic : BuildStatCommand → String
  | .binarySize _ => "binary-size"
  | .buildTime _ => "build-time"
  | .runtimeMethods _ => "runtime-compilable-methods"

/-- The size that a directory itself is reported to have. -/
def directorySize : Nat := 4096

/-- The size of what a name stands for, in bytes. -/
def sizeOf? (files : Files) (name : String) : Option Nat :=
  match files.node name with
  | .ok (.file content _) => some content.size
  | .ok (.directory _) => some directorySize
  | .ok _ => some 0
  | .error _ => none

/-- A size in megabytes with two places. -/
def megabytes (bytes : Nat) : Float :=
  roundedToCents ((UInt64.ofNat bytes).toFloat / 1024.0 / 1024.0)

/-- The lines of a log file. -/
def log? (files : Files) (name : String) : Option (List Char) :=
  (files.readText name).toOption.map String.toList

/-- The value of a statistic, if there is one. -/
def value? (files : Files) : BuildStatCommand → Option Json
  | .binarySize binary => (sizeOf? files binary).map fun bytes => .real (megabytes bytes)
  | .buildTime log => ((log? files log).bind BuildLog.totalSeconds?).map .real
  | .runtimeMethods log =>
    ((log? files log).bind BuildLog.runtimeMethods?).map fun n => .natural n.toNat

/-- Reads a statistic and reports it. -/
def run (files : Files) (request : BuildStatCommand) : Output × Log :=
  let value := request.value? files
  let log := if value.isNone then [.warning (request.statistic ++ " unavailable")] else []
  (({ statistic := request.statistic, value } : BuildStatReport).output, log)

end BuildStatCommand

end RunMeter
