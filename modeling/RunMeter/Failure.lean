/-!
# Failures

A failure is a category and a detail. The category decides how the program goes on: a failure that
concerns a single sample (`Failure.isSampleLocal`) disqualifies that sample, any other ends the
command. The modules that detect a failure keep its causes as types of their own and put the wording
of the cause into the detail.
-/

set_option autoImplicit false

namespace RunMeter

/-- The categories of failure. -/
inductive FailureKind
  | config
  | io
  | json
  | toml
  | invalidArgument
  | protocol
  | missingPattern
  | unsupportedPlatform
  | searchExhausted
  | noUsableSamples
deriving DecidableEq, Repr

/-- The words that a message of this category begins with. -/
def FailureKind.label : FailureKind → String
  | .config => "config error"
  | .io => "io error"
  | .json => "json error"
  | .toml => "toml error"
  | .invalidArgument => "invalid argument"
  | .protocol => "trace protocol violation"
  | .missingPattern => "missing pattern"
  | .unsupportedPlatform => "unsupported platform"
  | .searchExhausted => "bound search exhausted"
  | .noUsableSamples => "no usable samples"

/-- A failure of a command or of one of its samples. -/
structure Failure where
  kind : FailureKind
  detail : String
deriving DecidableEq, Repr

/-- The full text of a failure. -/
def Failure.message (failure : Failure) : String :=
  failure.kind.label ++ ": " ++ failure.detail

/-- Whether the detail of a failure is the text of a cause that is a failure by itself. -/
def FailureKind.hasCause (kind : FailureKind) : Bool :=
  kind == .io || kind == .json || kind == .toml

/-- The text of a failure with that of its cause after it. -/
def Failure.messageWithCause (failure : Failure) : String :=
  if failure.kind.hasCause then failure.message ++ ": " ++ failure.detail else failure.message

/-- Whether the failure disqualifies one sample without ending the run. -/
def Failure.isSampleLocal (failure : Failure) : Bool :=
  failure.kind == .protocol || failure.kind == .missingPattern

end RunMeter
