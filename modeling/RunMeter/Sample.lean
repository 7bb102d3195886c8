import RunMeter.Duration
import RunMeter.Number.Layout

/-!
# Samples

A sample is what one attempt to run a command yields. A run that could not be started, was stopped
at its time limit, ended with another status than zero or was ended by a signal is a sample that did
not succeed, never an error of its own.
-/

set_option autoImplicit false

namespace RunMeter

/-- One attempt to run a command. -/
structure Sample where
  stdout : String := ""
  stderr : String := ""
  succeeded : Bool := false
  elapsed : Duration := Duration.zero
  /-- The exit status, unless a signal ended the program. -/
  exitCode : Option Int := none
  timedOut : Bool := false
  /-- Why the program could not be started at all. -/
  startError : Option String := none
deriving DecidableEq, Repr

namespace Sample

/-- Both outputs as one text. A line break is put between them if the first one does not end with
one, so that the outputs never share a line. -/
def combined (sample : Sample) : String :=
  let out := sample.stdout.toList
  let err := sample.stderr.toList
  let needsBreak := !out.isEmpty && out.getLast? != some '\n' && !err.isEmpty
  String.ofList (out ++ (if needsBreak then ['\n'] else []) ++ err)

/-- Why the sample did not succeed. -/
def failureReason (sample : Sample) : String :=
  match sample.startError with
  | some cause => "could not start: " ++ cause
  | none =>
    if sample.timedOut then
      "timed out after " ++ fixedPlaces 3 sample.elapsed.toSeconds ++ "s"
    else
      match sample.exitCode with
      | some code => "exited with status " ++ toString code
      | none => "terminated by signal"

end Sample

end RunMeter
