import RunMeter.Number.Notation
import RunMeter.Report.Instant
import RunMeter.Shell.Tool.Basic

/-!
# Tools on time

Waiting, and writing dates by a format. The clock of the machine starts at a fixed time.
-/

set_option autoImplicit false

namespace RunMeter.Shell.Tool

/-- The milliseconds that a time to sleep has, rounded up; the inner level is missing if it never
ends. -/
def sleepTime? (text : String) : Option (Option Nat) :=
  match Quantity.read? text.toList with
  | none => none
  | some (quantity, unit) =>
    let factor : Option Nat := match unit with
      | [] => some 1
      | ['s'] => some 1
      | ['m'] => some 60
      | ['h'] => some 3600
      | ['d'] => some 86400
      | _ => none
    match quantity, factor with
    | _, none => none
    | .finite isNegative n d, some factor =>
      if isNegative && n != 0 then none else some (some ((n * 1000 * factor + d - 1) / d))
    | .infinite false, some _ => some none
    | _, some _ => none

/-- Waits. -/
def sleep (args : List String) (run : Run) : Run :=
  withOptions { short := "" } 1 args run fun given run =>
    if given.operands.isEmpty then misuse run "missing operand"
    else
      match given.operands.filter fun arg => (sleepTime? arg).isNone with
      | [] =>
        let times := given.operands.filterMap sleepTime?
        if times.contains none then run.stopping
        else
          let time := (times.filterMap id).foldl (· + ·) 0
          (run.ended 0).waitUntil (run.machine.clock + time)
      | wrong =>
        let complaints := wrong.map fun arg => "invalid time interval '" ++ arg ++ "'"
        misuse run (("\n" ++ run.process.name ++ ": ").intercalate complaints)

/-- When the clock of the machine starts, in seconds since 1970. -/
def epoch : Int := 1750000000

/-- The short names of the days of a week, which begins on Sunday. -/
def dayNames : List String :=
  ["Sunday", "Monday", "Tuesday", "Wednesday", "Thursday", "Friday", "Saturday"]

/-- The names of the months. -/
def monthNames : List String :=
  ["January", "February", "March", "April", "May", "June", "July", "August", "September", "October",
    "November", "December"]

/-- The days from 1970-01-01 to a day of the calendar. -/
def daysOfDate (year : Int) (month day : Nat) : Int :=
  let year := if month ≤ 2 then year - 1 else year
  let era := year.fdiv 400
  let yearOfEra := (year.fmod 400).toNat
  let fromMarch := if month > 2 then month - 3 else month + 9
  let dayOfYear := (153 * fromMarch + 2) / 5 + day - 1
  let dayOfEra := yearOfEra * 365 + yearOfEra / 4 - yearOfEra / 100 + dayOfYear
  era * 146097 + (dayOfEra : Int) - 719468

/-- An instant taken apart. -/
structure Moment where
  seconds : Int
  nanos : Nat
  offset : Int
  year : Int
  month : Nat
  day : Nat
  hour : Nat
  minute : Nat
  second : Nat
  weekday : Nat
  /-- The days since the first of January. -/
  dayOfYear : Nat

/-- Takes an instant apart. -/
def Moment.of (seconds : Int) (nanos : Nat) (offset : Int) : Moment :=
  let shown := seconds + offset
  let days := shown.fdiv 86400
  let second := (shown.fmod 86400).toNat
  let date := Instant.dateOfDays days
  { seconds, nanos, offset
    year := date.year
    month := date.month
    day := date.day
    hour := second / 3600
    minute := second / 60 % 60
    second := second % 60
    weekday := ((days + 4).fmod 7).toNat
    dayOfYear := (days - daysOfDate date.year 1 1).toNat }

/-- The week of the year that holds most of a moment's week, and the year it belongs to. -/
def Moment.isoWeek (moment : Moment) : Int × Nat :=
  let weekday : Int := (moment.weekday + 6) % 7
  -- the Thursday of the same week decides
  let thursday := (moment.seconds + moment.offset).fdiv 86400 - weekday + 3
  let year := (Instant.dateOfDays thursday).year
  (year, ((thursday - daysOfDate year 1 1) / 7 + 1).toNat)

/-- A number filled up to a width, unless a flag says otherwise. -/
def filled (flag : Option Char) (given : Option Nat) (fill : Char) (width : Nat) (n : Int) : String :=
  let digits := toString n.natAbs
  let fill := match flag with
    | some '-' => none
    | some '_' => some ' '
    | some '0' => some '0'
    | _ => some fill
  let width := given.getD width
  let sign := if n < 0 then "-" else ""
  match fill with
  | none => sign ++ digits
  | some fill =>
    sign ++ String.ofList (List.replicate (width - (digits.length + sign.length)) fill) ++ digits

/-- A text filled up to a width, in the case that a flag asks for. -/
def laidOut (flag : Option Char) (given : Option Nat) (text : String) : String :=
  let text := if flag == some '^' then text.map Char.toUpper else text
  match given with
  | some width => if flag == some '0' then
      String.ofList (List.replicate (width - text.length) '0') ++ text
    else leftPadded width text
  | none => text

mutual

/-- What one letter of a format stands for. -/
def Moment.field (moment : Moment) (fuel : Nat) (flag : Option Char) (width : Option Nat) (c : Char) :
    Option String :=
  match fuel with
  | 0 => none
  | fuel + 1 =>
    let number (fill : Char) (digits : Nat) (n : Int) : Option String :=
      some (filled flag width fill digits n)
    let text (text : String) : Option String := some (laidOut flag width text)
    let nested (format : String) : Option String :=
      some (laidOut flag width (moment.written fuel "" format.toList))
    let dayName := dayNames.getD moment.weekday ""
    let monthName := monthNames.getD (moment.month - 1) ""
    let hour12 : Nat := if moment.hour % 12 = 0 then 12 else moment.hour % 12
    let half := if moment.hour < 12 then "AM" else "PM"
    match c with
    | 'Y' => number '0' 1 moment.year
    | 'C' => number '0' 2 (moment.year.fdiv 100)
    | 'y' => number '0' 2 (moment.year.fmod 100)
    | 'm' => number '0' 2 moment.month
    | 'd' => number '0' 2 moment.day
    | 'e' => number ' ' 2 moment.day
    | 'H' => number '0' 2 moment.hour
    | 'I' => number '0' 2 hour12
    | 'k' => number ' ' 2 moment.hour
    | 'l' => number ' ' 2 hour12
    | 'M' => number '0' 2 moment.minute
    | 'S' => number '0' 2 moment.second
    | 'N' =>
      let digits := Instant.padded 9 moment.nanos
      some (match flag, width with
        | some '-', _ => toString moment.nanos
        | _, some width => (digits.take width).toString ++
            String.ofList (List.replicate (width - 9) '0')
        | _, none => digits)
    | 's' => number '0' 1 moment.seconds
    | 'j' => number '0' 3 (moment.dayOfYear + 1)
    | 'u' => number '0' 1 (if moment.weekday = 0 then 7 else moment.weekday)
    | 'w' => number '0' 1 moment.weekday
    | 'U' => number '0' 2 ((moment.dayOfYear + 7 - moment.weekday) / 7)
    | 'W' => number '0' 2 ((moment.dayOfYear + 7 - (moment.weekday + 6) % 7) / 7)
    | 'V' => number '0' 2 moment.isoWeek.2
    | 'G' => number '0' 1 moment.isoWeek.1
    | 'g' => number '0' 2 (moment.isoWeek.1.fmod 100)
    | 'q' => number '0' 1 ((moment.month + 2) / 3)
    | 'a' => text (dayName.take 3).toString
    | 'A' => text dayName
    | 'b' | 'h' => text (monthName.take 3).toString
    | 'B' => text monthName
    | 'p' => text (if flag == some '#' then half.map Char.toLower else half)
    | 'P' => text (half.map Char.toLower)
    | 'Z' => text (if moment.offset = 0 then (if flag == some '#' then "utc" else "UTC") else "")
    | 'z' =>
      let minutes := moment.offset.natAbs / 60
      text ((if moment.offset < 0 then "-" else "+") ++ Instant.padded 2 (minutes / 60) ++
        (if flag == some ':' then ":" else "") ++ Instant.padded 2 (minutes % 60))
    | 'n' => some "\n"
    | 't' => some "\t"
    | '%' => some "%"
    | 'F' => nested "%Y-%m-%d"
    | 'T' | 'X' => nested "%H:%M:%S"
    | 'D' | 'x' => nested "%m/%d/%y"
    | 'R' => nested "%H:%M"
    | 'r' => nested "%I:%M:%S %p"
    | 'c' => nested "%a %b %e %H:%M:%S %Y"
    | _ => none

/-- A moment written by a format. -/
def Moment.written (moment : Moment) (fuel : Nat) (done : String) (format : List Char) : String :=
  match fuel with
  | 0 => done
  | fuel + 1 =>
    match format with
    | [] => done
    | '%' :: rest =>
      let flags := rest.takeWhile fun c => "-_0^#:".contains c
      let digits := (rest.drop flags.length).takeWhile Char.isDigit
      let width := if digits.isEmpty then none else some (Decimal.value digits)
      match (rest.drop (flags.length + digits.length)).dropWhile fun c => c == 'E' || c == 'O' with
      | c :: after =>
        match moment.field fuel flags.getLast? width c with
        | some text => moment.written fuel (done ++ text) after
        | none =>
          moment.written fuel
            (done ++ "%" ++ String.ofList (rest.take (rest.length - after.length))) after
      | [] => done ++ "%" ++ String.ofList rest
    | c :: rest => moment.written fuel (done.push c) rest

end

/-- A moment by a format. -/
def Moment.render (moment : Moment) (format : String) : String :=
  moment.written (2 * format.length + 64) "" format.toList

/-- A whole number of digits with a sign, and nothing else. -/
def signedNumber? (text : String) : Option Int :=
  let (isNegative, digits) := match text.toList with
    | '-' :: rest => (true, rest)
    | '+' :: rest => (false, rest)
    | digits => (false, digits)
  if digits.isEmpty || !digits.all Char.isDigit then none
  else some (if isNegative then -(Decimal.value digits : Int) else Decimal.value digits)

/-- Seconds and nanoseconds of a time of day. -/
def clockTime? (text : String) : Option (Int × Nat) :=
  let number? (text : String) (limit : Nat) : Option Nat :=
    if text.isEmpty || text.length > 2 || !text.all Char.isDigit then none
    else
      let n := Decimal.value text.toList
      if n < limit then some n else none
  match text.splitOn ":" with
  | [h, m] => do some (((← number? h 24) * 3600 + (← number? m 60) * 60 : Nat), 0)
  | [h, m, s] => do
    let (whole, fraction) := match s.splitOn "." with
      | [whole, fraction] => (whole, fraction)
      | _ => (s, "")
    let nanos := if fraction.isEmpty then some 0
      else if fraction.all Char.isDigit then
        some (Decimal.value ((fraction ++ "000000000").toList.take 9))
      else none
    some (((← number? h 24) * 3600 + (← number? m 60) * 60 + (← number? whole 61) : Nat), ← nanos)
  | _ => none

/-- The day that a text of the form `2000-02-29`, `20000229` or `02/29/2000` means. -/
def calendarDay? (text : String) : Option Int :=
  let day? (y m d : String) : Option Int :=
    if [y, m, d].all fun part => !part.isEmpty && part.all Char.isDigit then
      let year := Decimal.value y.toList
      let month := Decimal.value m.toList
      let day := Decimal.value d.toList
      let isLeap := (year % 4 = 0 && year % 100 != 0) || year % 400 = 0
      let days := if month = 2 then (if isLeap then 29 else 28)
        else if month = 4 || month = 6 || month = 9 || month = 11 then 30 else 31
      if 1 ≤ month && month ≤ 12 && 1 ≤ day && day ≤ days then some (daysOfDate year month day)
      else none
    else none
  match text.splitOn "-", text.splitOn "/" with
  | [y, m, d], _ => day? y m d
  | _, [m, d, y] => day? y m d
  | _, _ =>
    if text.length = 8 && text.all Char.isDigit then
      day? (text.take 4).toString ((text.drop 4).take 2).toString (text.drop 6).toString
    else none

/-- A unit of time: so many seconds, or so many months. -/
inductive TimeUnit
  | seconds (n : Int)
  | months (n : Int)
deriving DecidableEq, Repr

/-- The unit of time that a word names. -/
def timeUnit? (word : String) : Option TimeUnit :=
  let word := if word.endsWith "s" then (word.dropEnd 1).toString else word
  match word with
  | "sec" | "second" => some (.seconds 1)
  | "min" | "minute" => some (.seconds 60)
  | "hour" => some (.seconds 3600)
  | "day" => some (.seconds 86400)
  | "week" => some (.seconds 604800)
  | "fortnight" => some (.seconds 1209600)
  | "month" => some (.months 1)
  | "year" => some (.months 12)
  | _ => none

/-- What the words of a date have said so far. -/
structure DateReading where
  day : Option Int := none
  time : Option (Int × Nat) := none
  shift : Int := 0
  months : Int := 0
  absolute : Option (Int × Nat) := none

/-- The number of the month that a word names, in full or by its first three letters. -/
def monthNamed? (word : String) : Option Nat :=
  let lower := word.map Char.toLower
  let names := monthNames.map fun name => name.map Char.toLower
  (names.findIdx? fun name => name == lower || (name.take 3).toString == lower).map (· + 1)

/-- The day that a day of a month, the name of the month and a year mean. -/
def namedDay? (day month year : String) : Option Int := do
  let month ← monthNamed? month
  let day := if day.endsWith "," then (day.dropEnd 1).toString else day
  let pad (text : String) : String := String.ofList (List.replicate (2 - text.length) '0') ++ text
  calendarDay? (year ++ "-" ++ pad (toString month) ++ "-" ++ pad day)

/-- The instant that a count of seconds behind an at sign means. -/
def countedInstant? (digits : String) : Option (Int × Nat) :=
  match digits.splitOn "." with
  | [whole] => (signedNumber? whole).map fun n => (n, 0)
  | [whole, fraction] => do
    let n ← signedNumber? whole
    let nanos := Decimal.value ((fraction ++ "000000000").toList.take 9)
    some (if whole.startsWith "-" && nanos > 0 then (n - 1, 1000000000 - nanos) else (n, nanos))
  | _ => none

/-- Adds a count of units. -/
def DateReading.shifted (reading : DateReading) (count : Int) : TimeUnit → DateReading
  | .seconds n => { reading with shift := reading.shift + count * n }
  | .months n => { reading with months := reading.months + count * n }

/-- Takes a count of units of time, which may lie in the past. -/
def DateReading.takeShift? (reading : DateReading) (word : String) (rest : List String) :
    Option (DateReading × List String) := do
  let lower := word.map Char.toLower
  if lower == "yesterday" then return (reading.shifted (-1) (.seconds 86400), rest)
  if lower == "tomorrow" then return (reading.shifted 1 (.seconds 86400), rest)
  let isCount := word.any Char.isDigit
  let (count, unit, rest) ← match signedNumber? word, lower, rest with
    | some n, _, unit :: more => some (n, unit, more)
    | none, "next", unit :: more => some (1, unit, more)
    | none, "last", unit :: more => some (-1, unit, more)
    | none, _, _ =>
      -- the unit may stand right behind its count
      let digits := word.takeWhile fun c => c == '+' || c == '-' || c.isDigit
      if isCount then
        (signedNumber? digits.toString).map fun n =>
          (n, (word.drop digits.toString.length).toString, rest)
      else if (timeUnit? lower).isSome then some (1, word, rest)
      else none
    | _, _, _ => none
  let unit ← timeUnit? (unit.map Char.toLower)
  let (sign, rest) : Int × List String := match rest with
    | "ago" :: more => (-1, more)
    | more => (1, more)
  return (reading.shifted (sign * count) unit, rest)

/-- Takes the next words of a date. -/
def DateReading.step? (reading : DateReading) (word : String) (rest : List String) :
    Option (DateReading × List String) :=
  let lower := word.map Char.toLower
  let time? := clockTime? (if word.endsWith "Z" then (word.dropEnd 1).toString else word)
  let date? : Option (Int × List String) := match rest with
    | second :: year :: more =>
      ((namedDay? word second year).orElse fun _ => namedDay? second word year).map (·, more)
    | _ => none
  if word.startsWith "@" then
    (countedInstant? (word.drop 1).toString).map fun instant =>
      ({ reading with absolute := some instant }, rest)
  else if ["utc", "z", "gmt", "now", "today"].contains lower then some (reading, rest)
  else
    match calendarDay? word, time?, date?, word.splitOn "T" with
    | some day, _, _, _ => some ({ reading with day := some day }, rest)
    | none, some time, _, _ => some ({ reading with time := some time }, rest)
    | none, none, some (day, more), _ => some ({ reading with day := some day }, more)
    | none, none, none, [date, time] =>
      match calendarDay? date with
      | some day => some ({ reading with day := some day }, time :: rest)
      | none => reading.takeShift? word rest
    | _, _, _, _ => reading.takeShift? word rest

/-- Takes the words of a date. `fuel` is more than twice their number. -/
def DateReading.take : (fuel : Nat) → DateReading → List String → Option DateReading
  | 0, _, _ => none
  | _, reading, [] => some reading
  | fuel + 1, reading, word :: rest => do
    let (reading, rest) ← reading.step? word rest
    DateReading.take fuel reading rest

/-- A day some months later. A day that the month does not have runs into the next one. -/
def laterByMonths (day months : Int) : Int :=
  let date := Instant.dateOfDays day
  let index := date.year * 12 + (date.month : Int) - 1 + months
  daysOfDate (index.fdiv 12) ((index.fmod 12).toNat + 1) 1 + (date.day : Int) - 1

/-- The instant that a text means, given what the time is now. -/
def dateOf? (now : Int × Nat) (text : String) : Option (Int × Nat) := do
  let words := (text.split fun c => c == ' ' || c == '\t').toList.filterMap fun piece =>
    if piece.isEmpty then none else some piece.toString
  let reading ← DateReading.take (2 * words.length + 4) {} words
  match reading.absolute with
  | some (seconds, nanos) => some (seconds + reading.shift, nanos)
  | none =>
    let isRelative := reading.day.isNone && reading.time.isNone && !words.isEmpty
    let today := now.1.fdiv 86400
    let (second, nanos) := if isRelative then (now.1 - today * 86400, now.2)
      else reading.time.getD (0, 0)
    let day := laterByMonths (reading.day.getD today) reading.months
    some (day * 86400 + second + reading.shift, nanos)

/-- Shows the time, now or as given, by a format. -/
def date (args : List String) (run : Run) : Run :=
  let table : OptionTable :=
    { short := "d:f:I::r:Rs:u"
      long :=
        [("date", .required, 'd'), ("iso-8601", .optional, 'I'), ("reference", .required, 'r'),
          ("rfc-email", .nothing, 'R'), ("rfc-3339", .required, '3'), ("utc", .nothing, 'u'),
          ("universal", .nothing, 'u'), ("set", .required, 's')] }
  withOptions table 1 args run fun given run =>
    let now : Int × Nat :=
      (epoch + (run.machine.clock / 1000 : Nat), run.machine.clock % 1000 * 1000000)
    let instant? := match given.value? 'd' with
      | some text => dateOf? now text
      | none => some now
    match instant? with
    | none => fail run ("invalid date '" ++ (given.value? 'd').getD "" ++ "'")
    | some (seconds, nanos) =>
      let moment := Moment.of seconds nanos 0
      let show' (format : String) : Run := (run.print (moment.render format ++ "\n")).ended 0
      match given.operands with
      | _ :: second :: _ => extraOperand run second
      | [operand] =>
        if operand.startsWith "+" then show' (operand.drop 1).toString
        else fail run ("invalid date '" ++ operand ++ "'")
      | [] =>
        if given.has 'R' then show' "%a, %d %b %Y %H:%M:%S %z"
        else if given.has 'I' then
          match given.value? 'I' with
          | none | some "date" => show' "%Y-%m-%d"
          | some "hours" => show' "%Y-%m-%dT%H%:z"
          | some "minutes" => show' "%Y-%m-%dT%H:%M%:z"
          | some "seconds" => show' "%Y-%m-%dT%H:%M:%S%:z"
          | some "ns" => show' "%Y-%m-%dT%H:%M:%S,%N%:z"
          | some text =>
            misuse run ("invalid argument '" ++ text ++ "' for '--iso-8601'")
        else
          match given.value? '3' with
          | some "date" => show' "%Y-%m-%d"
          | some "seconds" => show' "%Y-%m-%d %H:%M:%S%:z"
          | some _ => show' "%Y-%m-%d %H:%M:%S.%N%:z"
          | none => show' "%a %b %e %H:%M:%S %Z %Y"

end RunMeter.Shell.Tool
