import RunMeter.Number.Binary64
import RunMeter.Text.Match

/-!
# Build logs

Two numbers are read from the log of an ahead-of-time build: the total time, from
`[total]: <milliseconds> ms`, and the count of methods left for run time, from
`<n> method(s) included for runtime compilation`. Where the first occurrence is no readable number,
there is no value.
-/

set_option autoImplicit false

namespace RunMeter.BuildLog

open RunMeter.Text

/-- The total time at the start of a text, with its separators. -/
def milliseconds? (text : List Char) : Option (List Char) := do
  let rest ← after? "[total]: ".toList text
  let (found, rest) ← run? (fun c => isDecimalDigit c || c == ',' || c == '.') rest
  let _ ← after? " ms".toList rest
  some found

/-- The total time of a log in seconds. -/
def totalSeconds? (log : List Char) : Option Float := do
  let found ← firstMatch milliseconds? log
  let milliseconds ← (Binary64.readPlain (found.filter (· != ','))).toOption
  some (milliseconds / 1000.0)

/-- The count of methods at the start of a text. -/
def methods? (text : List Char) : Option (List Char) := do
  let (digits, rest) ← run? isDecimalDigit text
  let _ ← after? " method(s) included for runtime compilation".toList rest
  some digits

/-- The methods of a log that are compiled at run time. -/
def runtimeMethods? (log : List Char) : Option UInt64 := do
  let digits ← firstMatch methods? log
  (Decimal.readWord digits).toOption

end RunMeter.BuildLog
