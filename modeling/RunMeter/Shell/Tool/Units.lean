import RunMeter.Number.Notation
import RunMeter.Shell.Tool.Columns
import RunMeter.Shell.Tool.Order

/-!
# Numbers with units

`numfmt` reads numbers with letters for their units and writes numbers with such letters. A unit is a
power of a base, 1000 or 1024.
-/

set_option autoImplicit false

namespace RunMeter.Shell.Tool

/-- How units are written. -/
inductive UnitScale
  | none
  | auto
  /-- Powers of 1000. -/
  | si
  /-- Powers of 1024. -/
  | iec
  /-- Powers of 1024, each letter followed by an `i`. -/
  | iecI
deriving DecidableEq, Repr

namespace UnitScale

/-- The scale with a name. -/
def ofName? (name : String) : Option UnitScale :=
  match name with
  | "none" => some .none
  | "auto" => some .auto
  | "si" => some .si
  | "iec" => some .iec
  | "iec-i" => some .iecI
  | _ => Option.none

/-- The base of the units. -/
def base : UnitScale → Nat
  | .si => 1000
  | _ => 1024

end UnitScale

/-- The letters of the units from the first power on. -/
def unitLetters : List Char := ['K', 'M', 'G', 'T', 'P', 'E', 'Z', 'Y', 'R', 'Q']

/-- How a quotient becomes a whole number. -/
inductive UnitRounding
  | up | down | fromZero | towardsZero | nearest
deriving DecidableEq, Repr

/-- The rounding with a name. -/
def UnitRounding.ofName? (name : String) : Option UnitRounding :=
  match name with
  | "up" => some .up
  | "down" => some .down
  | "from-zero" => some .fromZero
  | "towards-zero" => some .towardsZero
  | "nearest" => some .nearest
  | _ => none

/-- A size `n / d` rounded to a whole number. -/
def UnitRounding.apply (rounding : UnitRounding) (isNegative : Bool) (n d : Nat) : Nat :=
  let low := n / d
  let high := (n + d - 1) / d
  match rounding with
  | .up => if isNegative then low else high
  | .down => if isNegative then high else low
  | .fromZero => high
  | .towardsZero => low
  | .nearest => (2 * n + d) / (2 * d)

/-- A number that was read: a sign, a size and the places behind its point. -/
structure Measured where
  isNegative : Bool
  numerator : Nat
  denominator : Nat
  places : Nat

/-- Why a number cannot be read. -/
inductive UnitFault
  | notNumeric
  | badSuffix
  | unwantedSuffix
  | missingI
  | trailing (text : String)
deriving DecidableEq, Repr

/-- The wording of a fault in a text. -/
def UnitFault.message (fault : UnitFault) (text : String) : String :=
  match fault with
  | .notNumeric => "invalid number: " ++ quoted text
  | .badSuffix => "invalid suffix in input: " ++ quoted text
  | .unwantedSuffix => "rejecting suffix in input: " ++ quoted text ++ " (consider using --from)"
  | .missingI => "missing 'i' suffix in input: " ++ quoted text ++ " (e.g Ki/Mi/Gi)"
  | .trailing rest => "invalid suffix in input " ++ quoted text ++ ": " ++ quoted rest

/-- Reads a number with a unit. -/
def measured? (scale : UnitScale) (text : List Char) : Except UnitFault Measured :=
  let (isNegative, rest) := match text with
    | '-' :: rest => (true, rest)
    | rest => (false, rest)
  let whole := rest.takeWhile Char.isDigit
  let after := rest.drop whole.length
  let (places, after) := match after with
    | '.' :: more => (more.takeWhile Char.isDigit, more.dropWhile Char.isDigit)
    | after => ([], after)
  if whole.isEmpty && places.isEmpty then .error .notNumeric
  else
    let plain (power : Nat) (base kept : Nat) : Measured :=
      { isNegative
        numerator := Decimal.value (whole ++ places) * base ^ power
        denominator := 10 ^ places.length
        places := kept }
    match after.dropWhile isBlankOctet with
    | [] => .ok (plain 0 1 places.length)
    | letter :: more =>
      match unitLetters.findIdx? (· == letter) with
      | none => .error .badSuffix
      | some power =>
        let hasI := more.head? == some 'i'
        let rest := if hasI && (scale == .auto || scale == .iecI) then more.drop 1 else more
        let base := match scale with
          | .auto => if hasI then 1024 else 1000
          | scale => scale.base
        if scale == .none then .error .unwantedSuffix
        else if scale == .iecI && !hasI then .error .missingI
        else if rest.isEmpty then .ok (plain (power + 1) base 0)
        else .error (.trailing (String.ofList rest))

/-- How many powers of a base a size holds. `fuel` is the highest power. -/
def powersIn (base n d : Nat) : (fuel : Nat) → Nat
  | 0 => 0
  | fuel + 1 => if n < base * d then 0 else powersIn base n (d * base) fuel + 1

/-- Writes a number with a unit. `places` are those behind the point that a format asks for. -/
def unitText (scale : UnitScale) (rounding : UnitRounding) (places : Option Nat) (measured : Measured) :
    String :=
  let { isNegative, numerator := n, denominator := d, places := read } := measured
  let sign := if isNegative && n != 0 then "-" else ""
  let digits (places n : Nat) : String :=
    String.ofList (Quantity.withPoint places false (Nat.toDigits 10 n))
  if scale == .none then
    let places := places.getD read
    sign ++ digits places (rounding.apply isNegative (n * 10 ^ places) d)
  else
    let base := scale.base
    let power := powersIn base n d unitLetters.length
    let unit := d * base ^ power
    let adjusted := match places with
      | some places => min (3 * power) places
      | none => if n < 10 * unit then 1 else 0
    let size := rounding.apply isNegative (n * 10 ^ adjusted) unit
    -- a size may have been rounded up to the next unit
    let rises := size ≥ base * 10 ^ adjusted
    let power := if rises then power + 1 else power
    let (n, d) := if rises then (size, base * 10 ^ adjusted) else (size, 10 ^ adjusted)
    let shows := n != 0 && n < 10 * d && power > 0
    let count := places.getD (if shows then 1 else 0)
    sign ++ digits count ((n * 10 ^ count * 2 + d) / (2 * d)) ++
      (match power with
        | 0 => ""
        | power + 1 =>
          String.ofList [unitLetters.getD power '?'] ++ if scale == .iecI then "i" else "")

/-- What a format asks for: the text around a number, its width, whether it is moved to the left or
filled with zeros, and its places. -/
structure UnitFormat where
  before : String := ""
  after : String := ""
  width : Nat := 0
  isLeft : Bool := false
  isFilled : Bool := false
  places : Option Nat := none

/-- Reads a format. -/
def unitFormat? (text : String) : Option UnitFormat :=
  let characters := text.toList
  let before := characters.takeWhile (· != '%')
  match characters.drop before.length with
  | '%' :: rest =>
    let flags := rest.takeWhile fun c => c == '0' || c == '-' || c == '\'' || c == ' '
    let rest := rest.drop flags.length
    let width := rest.takeWhile Char.isDigit
    let rest := rest.drop width.length
    let (places, rest) : Option Nat × List Char := match rest with
      | '.' :: more => (some (Decimal.value (more.takeWhile Char.isDigit)), more.dropWhile Char.isDigit)
      | rest => (none, rest)
    match rest with
    | 'f' :: after =>
      some
        { before := String.ofList before
          after := String.ofList after
          width := Decimal.value width
          isLeft := flags.contains '-'
          isFilled := flags.contains '0'
          places }
    | _ => none
  | _ => none

/-- The settings of `numfmt`. -/
structure UnitStyle where
  read : UnitScale
  write : UnitScale
  rounding : UnitRounding
  format : UnitFormat
  suffix : String
  /-- The units that the numbers read and written count in. -/
  readUnit : Nat
  writeUnit : Nat
  padding : Option Int

namespace UnitStyle

/-- Converts one field. -/
def convert (style : UnitStyle) (isFirst : Bool) (field : String) : Except String String :=
  let text := field.toList.dropWhile isBlankOctet
  let suffix := style.suffix.toList
  let text := if !suffix.isEmpty && suffix.isSuffixOf text && suffix.length < text.length then
      text.take (text.length - suffix.length)
    else text
  match measured? style.read text with
  | .error fault => .error (fault.message (String.ofList text))
  | .ok measured =>
    let scaled : Measured :=
      { measured with
        numerator := measured.numerator * style.readUnit
        denominator := measured.denominator * style.writeUnit
        places := if style.readUnit = style.writeUnit then measured.places else 0 }
    let written := unitText style.write style.rounding style.format.places scaled ++ style.suffix
    let filled := if style.format.isFilled then
        String.ofList (List.replicate (style.format.width - written.length) '0') ++ written
      else written
    let own : Int := style.format.width
    let width : Int := match style.padding with
      | some width => width
      | none =>
        if own > 0 then (if style.format.isLeft then -own else own)
        else if text.length < field.length || !isFirst then (field.length : Int)
        else 0
    let padded := if width < 0 then rightPadded width.natAbs filled else leftPadded width.natAbs filled
    .ok (style.format.before ++ padded ++ style.format.after)

end UnitStyle

/-- The fields of a line. Without a separator each field begins with its blanks, the first of which
divides it from the one before. `fuel` is more than the length of the line. -/
def unitFields (separator : Option Char) : (fuel : Nat) → List Char → List (List Char)
  | 0, _ => []
  | fuel + 1, text =>
    let field := match separator with
      | some c => text.takeWhile (· != c)
      | none =>
        let blanks := text.takeWhile isBlankOctet
        blanks ++ (text.drop blanks.length).takeWhile fun c => !isBlankOctet c
    match text.drop field.length with
    | [] => [field]
    | _ :: rest => field :: unitFields separator fuel rest

/-- Converts the numbers on a line, or says why that is impossible beside the line as it was. -/
def unitLine (style : UnitStyle) (separator : Option Char) (isChosen : Nat → Bool) (line : String) :
    String × List String :=
  let joint := String.ofList [separator.getD ' ']
  let converted := (unitFields separator (line.length + 1) line.toList).zipIdx.map fun (field, i) =>
    let field := String.ofList field
    if isChosen (i + 1) then
      match style.convert (i = 0) field with
      | .ok text => (text, none)
      | .error complaint => (field, some complaint)
    else (field, none)
  (joint.intercalate (converted.map (·.1)), converted.filterMap (·.2))

/-- Converts numbers from and to units. -/
def numfmt (args : List String) (run : Run) : Run :=
  let table : OptionTable :=
    { short := "d:z"
      long :=
        [("from", .required, '1'), ("to", .required, '2'), ("round", .required, '3'),
          ("format", .required, '4'), ("suffix", .required, '5'), ("padding", .required, '6'),
          ("field", .required, '7'), ("header", .optional, '8'), ("invalid", .required, '9'),
          ("delimiter", .required, 'd'), ("from-unit", .required, 'F'), ("to-unit", .required, 'T'),
          ("grouping", .nothing, 'g'), ("zero-terminated", .nothing, 'z'), ("debug", .nothing, 'D')] }
  let wrong (run : Run) (name value : String) (valid : List String) : Run :=
    misuse run ("invalid argument " ++ quoted value ++ " for '--" ++ name ++ "'\nValid arguments are:" ++
      String.join (valid.map fun word => "\n  - " ++ quoted word))
  withOptions table 1 args run fun given run =>
    let option (letter : Char) (standard : String) : String := (given.value? letter).getD standard
    let unit (letter : Char) : Option Nat := (count? (option letter "1")).filter (· > 0)
    let field := option '7' "1"
    let ranges := (field.splitOn ",").mapM columnRange
    match UnitScale.ofName? (option '1' "none"), (UnitScale.ofName? (option '2' "none")).filter (· != .auto),
      UnitRounding.ofName? (option '3' "from-zero"), unitFormat? (option '4' "%f") with
    | none, _, _, _ => wrong run "from" (option '1' "") ["none", "auto", "si", "iec", "iec-i"]
    | _, none, _, _ => wrong run "to" (option '2' "") ["none", "si", "iec", "iec-i"]
    | _, _, none, _ =>
      wrong run "round" (option '3' "") ["up", "down", "from-zero", "towards-zero", "nearest"]
    | _, _, _, none =>
      fail run ("invalid format " ++ quoted (option '4' "") ++
        ", directive must be %[0]['][-][N][.][N]f")
    | some read, some write, some rounding, some format =>
      match ranges, unit 'F', unit 'T', (given.value? '6').map String.toInt? with
      | .error _, _, _, _ => misuse run ("invalid field value " ++ quoted field)
      | _, none, _, _ => fail run ("invalid unit size: " ++ quoted (option 'F' ""))
      | _, _, none, _ => fail run ("invalid unit size: " ++ quoted (option 'T' ""))
      | _, _, _, some none | _, _, _, some (some 0) =>
        fail run ("invalid padding value " ++ quoted (option '6' ""))
      | .ok ranges, some readUnit, some writeUnit, padding =>
        let style : UnitStyle :=
          { read, write, rounding, format, suffix := option '5' "", readUnit, writeUnit
            padding := padding.bind id }
        let separator := (given.value? 'd').bind fun text => text.toList.head?
        let header := if given.has '8' then ((given.value? '8').bind String.toNat?).getD 1 else 0
        let stop := if given.has 'z' then '\x00' else '\n'
        let mode := option '9' "abort"
        let (lines, run) :=
          if given.operands.isEmpty then
            let (text, run) := run.readAll 0
            (recordsOf stop text, run)
          else (given.operands, run)
        let header := if given.operands.isEmpty then header else 0
        let put (run : Run) (line : String) : Run := run.print (line.push stop)
        let run := (lines.take header).foldl put (run.ended 0)
        (lines.drop header).foldl
          (fun run line =>
            if mode == "abort" && run.process.status != 0 then run
            else
              match unitLine style separator (inRanges ranges) line with
              | (text, []) => put run text
              | (text, complaint :: _) =>
                match mode with
                | "ignore" => put run text
                | "warn" =>
                  put (run.write 2 (run.process.name ++ ": " ++ complaint ++ "\n")) text
                | "fail" => put (failWith 2 run complaint) text
                | _ => failWith 2 run complaint)
          run

end RunMeter.Shell.Tool
