import RunMeter.Bound.Search
import RunMeter.Json.Printer
import RunMeter.Report.Measure
import RunMeter.Series

/-!
# Reports

A report exists twice: as a JSON document for machines and as lines for people. There is one for a
sampled metric, one for the least bound, and one for a statistic of a build. In the document of a
metric the results are members of an object, named after their series; where several series share a
name, the depth is added to it.
-/

set_option autoImplicit false

namespace RunMeter

/-- What tells one run of the program from another. -/
structure RunStamp where
  runId : String
  startedAt : String
deriving DecidableEq, Repr

/-- A finished report. -/
structure Output where
  document : Json
  human : List String
deriving Repr, Inhabited

/-- One series of a metric report. -/
structure ReportEntry where
  name : String
  depth : Nat
  samples : List Json
  mean : Float
  median : Float
  halfRange : Float
  human : String
deriving Repr

/-- The report of a sampled metric. -/
structure MetricsReport where
  metric : String
  stamp : RunStamp
  command : String
  usable : Nat
  excluded : Nat
  entries : List ReportEntry
deriving Repr

/-- The entry of a series, which has one if it has values. -/
def ReportEntry.ofSeries? (unit : Measure) (series : Series) : Option ReportEntry :=
  (summarize series.values).map fun summary =>
    { name := series.key.name
      depth := series.key.depth
      samples := series.values.map unit.document
      mean := summary.mean
      median := summary.median
      halfRange := summary.halfRange
      human := unit.human series.key.name summary }

/-- What the document says about one entry. -/
def ReportEntry.document (entry : ReportEntry) : Json :=
  .ofMembers
    [("samples", .array entry.samples),
      ("mean", .real entry.mean),
      ("median", .real entry.median),
      ("error", .real entry.halfRange),
      ("human", .string entry.human)]

namespace MetricsReport

/-- The report of what has been recorded. -/
def ofSeries (metric : String) (unit : Measure) (set : SeriesSet) (command : String)
    (stamp : RunStamp) : MetricsReport :=
  { metric
    stamp
    command
    usable := set.usable
    excluded := set.excluded
    entries := set.series.filterMap (ReportEntry.ofSeries? unit) }

/-- The first entry with a name. -/
def entry? (report : MetricsReport) (name : String) : Option ReportEntry :=
  report.entries.find? fun entry => entry.name == name

/-- The name of an entry in the document. -/
def memberName (entries : List ReportEntry) (entry : ReportEntry) : String :=
  if 1 < entries.countP fun other => other.name == entry.name then
    entry.name ++ "@" ++ toString entry.depth
  else entry.name

/-- The entries as one object. -/
def results (entries : List ReportEntry) : Json :=
  .ofMembers (entries.map fun entry => (memberName entries entry, entry.document))

/-- The document of a metric report. -/
def document (report : MetricsReport) : Json :=
  .ofMembers
    [("schemaVersion", .string ("procmetrics." ++ report.metric ++ ".v1")),
      ("metric", .string report.metric),
      ("runId", .string report.stamp.runId),
      ("startedAt", .string report.stamp.startedAt),
      ("command", .string report.command),
      ("usableSamples", .natural report.usable),
      ("excludedSamples", .natural report.excluded),
      ("results", results report.entries)]

/-- The lines of a metric report, indented by depth. -/
def human (report : MetricsReport) : List String :=
  report.entries.map fun entry => String.ofList (List.replicate entry.depth ' ') ++ entry.human

/-- The finished report. -/
def output (report : MetricsReport) : Output := { document := report.document, human := report.human }

end MetricsReport

/-- The report of a bound search. -/
structure BoundReport where
  outcome : SearchOutcome
  unit : String
  command : String
  stamp : RunStamp
deriving Repr

namespace BoundReport

/-- The answer in words. -/
def human (report : BoundReport) : String :=
  toString report.outcome.bound.toNat ++ " " ++ report.unit

/-- The document of a bound report. -/
def document (report : BoundReport) : Json :=
  .ofMembers
    [("schemaVersion", .string "procmetrics.minheap.v1"),
      ("runId", .string report.stamp.runId),
      ("startedAt", .string report.stamp.startedAt),
      ("command", .string report.command),
      ("min", .natural report.outcome.bound.toNat),
      ("unit", .string report.unit),
      ("trials", .natural report.outcome.trials),
      ("firstSuccess",
        match report.outcome.firstSuccess with
        | some bound => .natural bound.toNat
        | none => .null),
      ("human", .string report.human)]

/-- The finished report. -/
def output (report : BoundReport) : Output :=
  { document := report.document, human := [report.human] }

end BoundReport

/-- The report of one statistic of a build. -/
structure BuildStatReport where
  statistic : String
  value : Option Json
deriving Repr

namespace BuildStatReport

/-- The statistic in words. -/
def human (report : BuildStatReport) : String :=
  report.statistic ++ ": " ++
    match report.value with
    | some value => value.render
    | none => "unavailable"

/-- The document of a build statistic. -/
def document (report : BuildStatReport) : Json :=
  .ofMembers
    [("schemaVersion", .string "procmetrics.build_stats.v1"),
      ("attribute", .string report.statistic),
      ("value", report.value.getD .null),
      ("human", .string report.human)]

/-- The finished report. -/
def output (report : BuildStatReport) : Output :=
  { document := report.document, human := [report.human] }

end BuildStatReport

/-- The document of a search outcome by itself. -/
def SearchOutcome.document (outcome : SearchOutcome) : Json :=
  .ofMembers
    [("bound", .natural outcome.bound.toNat),
      ("trials", .natural outcome.trials),
      ("firstSuccess",
        match outcome.firstSuccess with
        | some bound => .natural bound.toNat
        | none => .null)]

end RunMeter
