import RunMeter.Number.Decimal
import RunMeter.Saturating
import RunMeter.Text.Lines
import RunMeter.Text.Match

/-!
# Allocated bytes

A trace reports allocation in two kinds of line. A collection `<before>K-><after>K`, anywhere in a
line, gives back the kibibytes between the two sizes; a line that is exactly `allocated <n>` reports
bytes. `Allocation.total` adds them up, line by line, and stops at the largest word.
-/

set_option autoImplicit false

namespace RunMeter.Allocation

open RunMeter.Text

/-- A collection at the start of a text: the digits of the sizes before and after it. -/
def collection? (text : List Char) : Option (List Char × List Char) := do
  let (before, rest) ← run? isDecimalDigit text
  let rest ← after? "K->".toList rest
  let (after, rest) ← run? isDecimalDigit rest
  match rest with
  | 'K' :: _ => some (before, after)
  | _ => none

/-- The digits of a line that is exactly `allocated <n>`. -/
def announced? (line : List Char) : Option (List Char) := do
  let digits ← after? "allocated ".toList line
  if !digits.isEmpty && digits.all isDecimalDigit then some digits else none

/-- A size in kibibytes as bytes, if it can be read and is a word. -/
def kibibytes? (digits : List Char) : Option UInt64 :=
  match Decimal.readWord digits with
  | .ok n => if n.toNat * 1024 ≤ maxWord then some (n * 1024) else none
  | .error _ => none

/-- The bytes that one line reports. A line with a collection is never read as an announcement, even
if its sizes are out of range. -/
def ofLine (line : List Char) : UInt64 :=
  match firstMatch collection? line with
  | some (before, after) =>
    match kibibytes? before, kibibytes? after with
    | some before, some after => saturatingSub before after
    | _, _ => 0
  | none =>
    match announced? line with
    | some digits => (Decimal.readWord digits).toOption.getD 0
    | none => 0

/-- The bytes that a trace reports. -/
def total (trace : List Char) : UInt64 :=
  (lines trace).foldl (fun sum line => saturatingAdd sum (ofLine line)) 0

end RunMeter.Allocation
