import RunMeter.Number.Layout

/-!
# Sizes for human readers

A size is scaled in steps of 1024 and shown with at most two decimal places. The scale changes at
powers of 1000, so that no more than three digits stand before the point beyond kilobytes.
-/

set_option autoImplicit false

namespace RunMeter

/-- Scaled sizes are positional and always show a place after the point. -/
def sizeLayout : Layout :=
  { leastPositional := none
    largestPositional := none
    wholeMark := ".0"
    infinity := "inf"
    notANumber := "NaN" }

/-- The value rounded to two places, a half going away from zero. -/
def roundedToCents (x : Float) : Float := (x * 100.0).round / 100.0

/-- A size with its scale. -/
def humanSize (bytes : UInt64) : String :=
  let b := bytes.toFloat
  let scaled (x : Float) (scale : String) := sizeLayout.render (roundedToCents x) ++ " " ++ scale
  if bytes < 1024 then toString bytes.toNat ++ " B"
  else if bytes < 1000000 then scaled (b / 1024.0) "KB"
  else if bytes < 1000000000 then scaled (b / 1048576.0) "MB"
  else if bytes < 1000000000000 then scaled (b / 1073741824.0) "GB"
  else scaled (b / 1099511627776.0) "TB"

end RunMeter
