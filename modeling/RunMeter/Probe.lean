import RunMeter.Failure
import RunMeter.Report.Measure
import RunMeter.Sample
import RunMeter.Series
import RunMeter.Trace.Allocation
import RunMeter.Trace.Instructions
import RunMeter.Trace.Phase
import RunMeter.Trace.Residence

/-!
# Probes

A probe is one kind of measurement: how the command is wrapped for it, which text the values are
read from, and the unit they have. Two probes read what the program itself traces, which may be a
file; the other two read the report that a tool writes to standard error.
-/

set_option autoImplicit false

namespace RunMeter

/-- What is measured. -/
inductive Probe
  | allocation
  | phaseTiming
  | maxRss (platform : RssPlatform)
  | instructions
deriving DecidableEq, Repr

namespace Probe

/-- The name of the metric. -/
def name : Probe → String
  | .allocation => "alloc"
  | .phaseTiming => "time"
  | .maxRss _ => "maxrss"
  | .instructions => "instructions"

/-- The unit of the metric. -/
def unit : Probe → Measure
  | .allocation => .bytes
  | .phaseTiming => .seconds
  | .maxRss _ => .mebibytes
  | .instructions => .count

/-- Whether the trace may be a file instead of the captured output. -/
def readsTraceFile : Probe → Bool
  | .allocation => true
  | .phaseTiming => true
  | .maxRss _ => false
  | .instructions => false

/-- The command as it is run for the measurement. -/
def prepare (probe : Probe) (command : Command) : Command :=
  match probe with
  | .allocation => command
  | .phaseTiming => command
  | .maxRss platform => platform.wrap command
  | .instructions => Instructions.wrap command

/-- A failure of the sample for a missing value. -/
def absent (absence : Absence) : Failure := { kind := .missingPattern, detail := absence.message }

/-- A failure of the sample for a broken trace. -/
def broken (violation : PhaseViolation) : Failure := { kind := .protocol, detail := violation.message }

/-- The values of one sample. `trace` is the text that the program wrote its markers to. -/
def extract (probe : Probe) (sample : Sample) (trace : String) :
    Except Failure (List (MetricKey × Float)) :=
  match probe with
  | .allocation => .ok [(.scalar "allocated", (Allocation.total trace.toList).toFloat)]
  | .phaseTiming =>
    match Phases.parse trace.toList sample.elapsed with
    | .ok entries =>
      .ok (entries.map fun entry => ({ name := entry.name, depth := entry.depth }, entry.seconds))
    | .error violation => .error (broken violation)
  | .maxRss platform =>
    match platform.parse sample.stderr.toList with
    | .ok mebibytes => .ok [(.scalar "maxrss", mebibytes)]
    | .error absence => .error (absent absence)
  | .instructions =>
    match Instructions.parse sample.stderr.toList with
    | .ok n => .ok [(.scalar "instructions", n.toFloat)]
    | .error absence => .error (absent absence)

end Probe

end RunMeter
