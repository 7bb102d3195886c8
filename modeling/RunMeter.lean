import RunMeter.Main
import RunMeter.Report.Exchange
import RunMeter.Proofs.Bound.Threshold
import RunMeter.Proofs.Bound.Stopping
import RunMeter.Proofs.Trace.Entries
import RunMeter.Proofs.Runs.Accounting
import RunMeter.Proofs.Runs.TraceFile
import RunMeter.Proofs.Metric.BoundRuns
import RunMeter.Proofs.Metric.SampledRuns
import RunMeter.Proofs.Report.MemberNames
import RunMeter.Proofs.Runs.Outcome
import RunMeter.Proofs.Series.Consistency
import RunMeter.Proofs.Trace.ReportBehindOutput
import RunMeter.Proofs.Runs.Failures
import RunMeter.Proofs.Trace.AllocatedBytes
import RunMeter.Proofs.Bound.ClosedForm
import RunMeter.Proofs.Bound.Budget
import RunMeter.Proofs.Duration.Notation
import RunMeter.Proofs.Metric.BoundDelivery
import RunMeter.Proofs.Trace.JoinedOutputs
import RunMeter.Proofs.Trace.OtherLines
import RunMeter.Proofs.Trace.WholeNumbers
import RunMeter.Proofs.Duration.Grammar
import RunMeter.Proofs.Bound.Marks
import RunMeter.Proofs.Command.Building
import RunMeter.Proofs.Progress.Groups
import RunMeter.Proofs.Host.Samples
