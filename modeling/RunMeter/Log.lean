/-!
# Log lines

What a run has to say beside its result: warnings about samples and a line about the outcome.
-/

set_option autoImplicit false

namespace RunMeter

/-- How much a line matters. -/
inductive LogLevel
  | warning
  | info
deriving DecidableEq, Repr

/-- One line of the log. -/
structure LogLine where
  level : LogLevel
  text : String
deriving DecidableEq, Repr

/-- The lines of a run, in order. -/
abbrev Log := List LogLine

/-- A warning. -/
def LogLine.warning (text : String) : LogLine := { level := .warning, text }

/-- A note. -/
def LogLine.info (text : String) : LogLine := { level := .info, text }

end RunMeter
