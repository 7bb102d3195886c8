/-!
# Points in time

An instant is shown as date, time of day and offset from universal time. The calendar is the
proleptic Gregorian one, counted in years that begin in March so that the leap day is the last day
of its year. An instant whose year needs more than four digits, or whose offset is not in whole
minutes below a day, is shown as its count of seconds instead.
-/

set_option autoImplicit false

namespace RunMeter

/-- A point in time: seconds and nanoseconds since 1970 in universal time, and the offset in seconds
at which it is shown. -/
structure Instant where
  seconds : Int
  nanos : Nat := 0
  offset : Int := 0
deriving DecidableEq, Repr

namespace Instant

/-- A day of the calendar. -/
structure Date where
  year : Int
  month : Nat
  day : Nat
deriving DecidableEq, Repr

/-- The days of 400 years. -/
def daysPerEra : Int := 146097

/-- The day that lies a number of days after 1970-01-01. -/
def dateOfDays (days : Int) : Date :=
  -- count from 0000-03-01
  let shifted := days + 719468
  let era := shifted.fdiv daysPerEra
  let dayOfEra := (shifted.fmod daysPerEra).toNat
  let yearOfEra := (dayOfEra - dayOfEra / 1460 + dayOfEra / 36524 - dayOfEra / 146096) / 365
  let dayOfYear := dayOfEra - (365 * yearOfEra + yearOfEra / 4 - yearOfEra / 100)
  let monthFromMarch := (5 * dayOfYear + 2) / 153
  let day := dayOfYear - (153 * monthFromMarch + 2) / 5 + 1
  let month := if monthFromMarch < 10 then monthFromMarch + 3 else monthFromMarch - 9
  let year := (yearOfEra : Int) + era * 400 + if month ≤ 2 then 1 else 0
  { year, month, day }

/-- A number with leading zeros up to a width. -/
def padded (width n : Nat) : String :=
  let digits := Nat.toDigits 10 n
  String.ofList (List.replicate (width - digits.length) '0' ++ digits)

/-- The fraction of a second, without zeros at its end. -/
def fraction (nanos : Nat) : String :=
  if nanos = 0 then ""
  else
    let digits := (padded 9 nanos).toList
    "." ++ String.ofList (digits.reverse.dropWhile (· == '0')).reverse

/-- An offset from universal time. -/
def offsetText (offset : Int) : String :=
  if offset = 0 then "Z"
  else
    let minutes := offset.natAbs / 60
    (if offset < 0 then "-" else "+") ++ padded 2 (minutes / 60) ++ ":" ++ padded 2 (minutes % 60)

/-- The instant as date and time, if it can be written so. -/
def dateTime? (instant : Instant) : Option String :=
  let shown := instant.seconds + instant.offset
  let date := dateOfDays (shown.fdiv 86400)
  let second := (shown.fmod 86400).toNat
  if date.year < 0 ∨ date.year > 9999 ∨ instant.offset.natAbs ≥ 86400 ∨
      instant.offset.natAbs % 60 ≠ 0 then none
  else
    some <| padded 4 date.year.toNat ++ "-" ++ padded 2 date.month ++ "-" ++ padded 2 date.day ++
      "T" ++ padded 2 (second / 3600) ++ ":" ++ padded 2 (second / 60 % 60) ++ ":" ++
      padded 2 (second % 60) ++ fraction instant.nanos ++ offsetText instant.offset

/-- The instant as it is written in documents. -/
def render (instant : Instant) : String :=
  instant.dateTime?.getD (toString instant.seconds)

end Instant

end RunMeter
