import RunMeter.Number.Decimal
import RunMeter.Text.Quoted

/-!
# Absent values

A report without the expected number carries no data. That is told apart from a value of zero: the
reader gives the reason instead of a number.
-/

set_option autoImplicit false

namespace RunMeter

/-- Why a report carries no value. -/
inductive Absence
  | noLine (what : String)
  | unreadable (what : String) (cause : Decimal.Fault)
  | noCount
  | unreadableCount (found : String) (cause : Decimal.Fault)
deriving DecidableEq, Repr

/-- The wording of a reason. -/
def Absence.message : Absence → String
  | .noLine what => "no " ++ Text.quote what ++ " line in output"
  | .unreadable what cause =>
    "unreadable " ++ Text.quote what ++ " value: " ++ cause.message
  | .noCount => "no \"<count> instructions\" line in output"
  | .unreadableCount found cause =>
    "unreadable instruction count " ++ Text.quote found ++ ": " ++ cause.message

end RunMeter
