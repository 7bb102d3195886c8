/-!
# Summaries of a series

The middle of a series is the middle of its range, not an order statistic, and its error is half of
that range. Values that are no numbers are passed over when the range is formed, but not in the mean.
-/

set_option autoImplicit false

namespace RunMeter

/-- What is reported about the values of a series. -/
structure Summary where
  count : Nat
  mean : Float
  /-- The middle of the range. -/
  median : Float
  /-- Half the width of the range. -/
  halfRange : Float
  least : Float
  largest : Float
deriving Repr

/-- The smaller of two values; the first if they are equal, the other if one is no number. -/
def smaller (a b : Float) : Float := if a.isNaN then b else if b < a then b else a

/-- The larger of two values; the first if they are equal, the other if one is no number. -/
def larger (a b : Float) : Float := if a.isNaN then b else if a < b then b else a

/-- The summary of a series, if it has values. -/
def summarize : List Float → Option Summary
  | [] => none
  | first :: rest =>
    let least := rest.foldl smaller first
    let largest := rest.foldl larger first
    let sum := rest.foldl (· + ·) first
    let count := rest.length + 1
    let halfRange := (largest - least) / 2.0
    some
      { count
        mean := sum / (UInt64.ofNat count).toFloat
        median := least + halfRange
        halfRange
        least
        largest }

end RunMeter
