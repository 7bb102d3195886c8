import RunMeter.Command
import RunMeter.Text.Blank
import RunMeter.Text.Match
import RunMeter.Trace.Absent

/-!
# Retired instructions

The `perf stat` tool writes a count, white space and the word `instructions`. The count may be
grouped with commas, points, apostrophes or narrow no-break spaces, of which the last are white space
as well: if nothing else separates the count from the word, the last one of the group does.
-/

set_option autoImplicit false

namespace RunMeter.Instructions

open RunMeter.Text

/-- Runs a command behind the counting tool. -/
def wrap (command : Command) : Command :=
  command.wrapped "perf" ["stat", "-e", "instructions", "--"]

/-- The narrow no-break space, a separator that is white space. -/
def narrowSpace : Char := '\u202F'

/-- The characters that group digits. -/
def isSeparator (c : Char) : Bool := c == ',' || c == '.' || c == '\'' || c == narrowSpace

/-- The word behind the count. -/
def label : String := "instructions"

/-- A count at the start of a text, with its separators. -/
def count? (text : List Char) : Option (List Char) := do
  let first ← text.head?
  if isDecimalDigit first then
    let (found, rest) ← run? (fun c => isDecimalDigit c || isSeparator c) text
    match run? isBlank rest with
    | some (_, rest) =>
      let _ ← after? label.toList rest
      some found
    | none =>
      if found.getLast? == some narrowSpace then
        let _ ← after? label.toList rest
        some found.dropLast
      else none
  else none

/-- The count of a report. -/
def parse (report : List Char) : Except Absence UInt64 :=
  match firstMatch count? report with
  | none => .error .noCount
  | some found =>
    match Decimal.readWord (found.filter Char.isDigit) with
    | .ok n => .ok n
    | .error cause => .error (.unreadableCount (String.ofList found) cause)

end RunMeter.Instructions
