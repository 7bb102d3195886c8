import RunMeter.Number.Binary64
import RunMeter.Shell.Tool.Basic

/-!
# Putting lines in order

`sort` compares lines by keys, each cut out of the line and compared in one of several ways, and at
last as a whole; `uniq` drops lines that repeat the one before.
-/

set_option autoImplicit false

namespace RunMeter.Shell.Tool

/-! ## Keys -/

/-- A key: where it begins and ends in a line, and the letters that say how it is compared. -/
structure SortKey where
  /-- Fields and characters to be skipped before the key. -/
  startField : Nat := 0
  startOffset : Nat := 0
  /-- The last field, counted from one, and the last character in it, zero for all of them. -/
  stop : Option (Nat × Nat) := none
  options : List Char := []
  /-- Whether blanks before the first and the last character do not count. -/
  skipsBefore : Bool := false
  skipsAtEnd : Bool := false
deriving DecidableEq, Repr

/-- Whether a character separates fields by default. -/
def isBlankOctet (c : Char) : Bool := c == ' ' || c == '\t'

/-- What is left of a line behind some fields. -/
def afterFields (separator : Option Char) : (count : Nat) → List Char → List Char
  | 0, line => line
  | count + 1, line =>
    match separator with
    | some c => afterFields separator count ((line.dropWhile (· != c)).drop 1)
    | none =>
      afterFields separator count
        ((line.dropWhile isBlankOctet).dropWhile fun c => !isBlankOctet c)

/-- How many characters of a line lie before the end of a key. -/
def keyEnd (separator : Option Char) (key : SortKey) (line : List Char) : Nat :=
  match key.stop with
  | none => line.length
  | some (field, 0) =>
    match separator with
    | some c =>
      let rest := afterFields separator (field - 1) line
      line.length - (rest.dropWhile (· != c)).length
    | none => line.length - (afterFields none field line).length
  | some (field, offset) =>
    let rest := afterFields separator (field - 1) line
    let rest := if key.skipsAtEnd then rest.dropWhile isBlankOctet else rest
    line.length - (rest.drop offset).length

/-- The part of a line that a key means. -/
def keyText (separator : Option Char) (key : SortKey) (line : List Char) : List Char :=
  let rest := afterFields separator key.startField line
  let rest := if key.skipsBefore then rest.dropWhile isBlankOctet else rest
  let rest := rest.drop key.startOffset
  let start := line.length - rest.length
  rest.take (keyEnd separator key line - start)

/-! ## Comparing -/

/-- The number at the start of a text, as a numerator over a power of ten. -/
def leadingNumber (text : List Char) : Int × Nat :=
  let text := text.dropWhile isBlankOctet
  let (isNegative, text) := match text with
    | '-' :: rest => (true, rest)
    | text => (false, text)
  let whole := text.takeWhile Char.isDigit
  let fraction := match text.drop whole.length with
    | '.' :: rest => rest.takeWhile Char.isDigit
    | _ => []
  let n : Int := Decimal.value (whole ++ fraction)
  (if isNegative then -n else n, fraction.length)

/-- Compares two decimal fractions. -/
def compareDecimals (a b : Int × Nat) : Ordering :=
  compare (a.1 * 10 ^ b.2) (b.1 * 10 ^ a.2)

/-- The power of a thousand that the letter after a number stands for. -/
def magnitude (text : List Char) : Nat :=
  let text := (text.dropWhile isBlankOctet).dropWhile fun c => c.isDigit || c == '-' || c == '.'
  match text.head? with
  | some c => match c with
    | 'K' | 'k' => 1
    | 'M' => 2
    | 'G' => 3
    | 'T' => 4
    | 'P' => 5
    | 'E' => 6
    | 'Z' => 7
    | 'Y' => 8
    | _ => 0
  | none => 0

/-- The months by their short names. -/
def months : List String :=
  ["JAN", "FEB", "MAR", "APR", "MAY", "JUN", "JUL", "AUG", "SEP", "OCT", "NOV", "DEC"]

/-- The number of the month that a text begins with; zero if there is none. -/
def monthNumber (text : List Char) : Nat :=
  let name := String.ofList (((text.dropWhile isBlankOctet).take 3).map Char.toUpper)
  (months.idxOf? name).elim 0 (· + 1)

/-- The number that a text begins with, which may have an exponent. Texts without a number come
first. -/
def generalNumber (text : List Char) : Option Float :=
  let text := text.dropWhile isSpace
  let (isNegative, text) := match text with
    | '-' :: rest => (true, rest)
    | '+' :: rest => (false, rest)
    | text => (false, text)
  let whole := text.takeWhile Char.isDigit
  let (fraction, text) := match text.drop whole.length with
    | '.' :: rest => (rest.takeWhile Char.isDigit, rest.dropWhile Char.isDigit)
    | rest => ([], rest)
  if whole.isEmpty && fraction.isEmpty then none
  else
    let exponent : Int := match text with
      | c :: rest =>
        if c == 'e' || c == 'E' then
          match rest with
          | '-' :: digits => -(Decimal.value (digits.takeWhile Char.isDigit) : Int)
          | '+' :: digits => Decimal.value (digits.takeWhile Char.isDigit)
          | digits => Decimal.value (digits.takeWhile Char.isDigit)
        else 0
      | [] => 0
    let size := Binary64.ofDecimal (Decimal.value (whole ++ fraction))
      (exponent - (fraction.length : Int))
    some (if isNegative then -size else size)
where
  /-- Whether a character may stand before a number. -/
  isSpace (c : Char) : Bool := c == ' ' || ('\t' ≤ c && c ≤ '\r')

/-- Compares numbers, a missing one first. -/
def compareGeneral (a b : Option Float) : Ordering :=
  match a, b with
  | none, none => .eq
  | none, some _ => .lt
  | some _, none => .gt
  | some x, some y => if x < y then .lt else if y < x then .gt else .eq

/-- The rank of a character in the order of versions: a tilde before the end, then digits, letters and
other characters. -/
def versionRank : Option Char → Int
  | none => -1
  | some c =>
    if c.isDigit then 0 else if c.isAlpha then c.toNat else if c == '~' then -2 else c.toNat + 256

/-- Compares two texts as versions: digits by value, the rest by rank. `fuel` is more than their
lengths together. -/
def compareVersions : (fuel : Nat) → List Char → List Char → Ordering
  | 0, _, _ => .eq
  | _, [], [] => .eq
  | fuel + 1, a, b =>
    let isOther (text : List Char) : Bool := text.head?.any fun c => !c.isDigit
    if isOther a || isOther b then
      match compare (versionRank a.head?) (versionRank b.head?) with
      | .eq => compareVersions fuel (a.drop 1) (b.drop 1)
      | other => other
    else
      let x := a.takeWhile Char.isDigit
      let y := b.takeWhile Char.isDigit
      match compare (Decimal.value x) (Decimal.value y) with
      | .eq => compareVersions fuel (a.drop x.length) (b.drop y.length)
      | other => other

/-- The length of a name without its endings, each of which is a point, a letter and letters or
digits. -/
def stemLength (name : List Char) : Nat :=
  let rec shorter : (fuel : Nat) → Nat → Nat
    | 0, length => length
    | fuel + 1, length =>
      let text := name.take length
      let ending := (text.reverse.takeWhile fun c => c.isAlphanum || c == '~').reverse
      let before := text.take (length - ending.length)
      match before.getLast?, ending with
      | some '.', c :: _ =>
        if (c.isAlpha || c == '~') && before.length > 1 then shorter fuel (before.length - 1) else length
      | _, _ => length
  shorter name.length name.length

/-- Compares two names as versions, first without their endings. -/
def compareNames (a b : List Char) : Ordering :=
  let fuel := a.length + b.length + 2
  match compareVersions fuel (a.take (stemLength a)) (b.take (stemLength b)) with
  | .eq => compareVersions fuel a b
  | other => other

/-- Compares two texts by the number of each character. -/
def compareOctets : List Char → List Char → Ordering
  | [], [] => .eq
  | [], _ :: _ => .lt
  | _ :: _, [] => .gt
  | a :: as, b :: bs =>
    if a < b then .lt else if b < a then .gt else compareOctets as bs

/-- Compares the parts of two lines that a key means. -/
def compareKeys (options : List Char) (a b : List Char) : Ordering :=
  let has (c : Char) : Bool := options.contains c
  let order :=
    if has 'n' then compareDecimals (leadingNumber a) (leadingNumber b)
    else if has 'h' then
      let sign (n : Int × Nat) : Int := n.1.sign
      let x := leadingNumber a
      let y := leadingNumber b
      let scale (n : Int × Nat) (text : List Char) : Int := sign n * (magnitude text : Int)
      match compare (sign x) (sign y) with
      | .eq =>
        match compare (scale x a) (scale y b) with
        | .eq => compareDecimals x y
        | other => other
      | other => other
    else if has 'g' then compareGeneral (generalNumber a) (generalNumber b)
    else if has 'M' then compare (monthNumber a) (monthNumber b)
    else
      let kept (c : Char) : Bool :=
        (!has 'd' || c.isAlphanum || isBlankOctet c) && (!has 'i' || (' ' ≤ c && c ≤ '~'))
      let plain (text : List Char) : List Char :=
        let text := if has 'd' || has 'i' then text.filter kept else text
        if has 'f' then text.map Char.toUpper else text
      if has 'V' then compareNames (plain a) (plain b)
      else compareOctets (plain a) (plain b)
  if has 'r' then order.swap else order

/-! ## Sorting -/

/-- Reads the position of a key: field, character if given, and letters. -/
def keyPosition (text : String) : Option (Nat × Option Nat × List Char) :=
  let characters := text.toList
  let field := characters.takeWhile Char.isDigit
  if field.isEmpty then none
  else
    match characters.drop field.length with
    | '.' :: rest =>
      let offset := rest.takeWhile Char.isDigit
      if offset.isEmpty then none
      else some (Decimal.value field, some (Decimal.value offset), rest.drop offset.length)
    | letters => some (Decimal.value field, none, letters)

/-- Reads a key. -/
def sortKey? (text : String) : Option SortKey :=
  let known (letters : List Char) : Bool := letters.all fun c => "bdfgiMhnRrV".contains c
  match text.splitOn "," with
  | start :: rest =>
    match keyPosition start with
    | none => none
    | some (field, offset, letters) =>
      if field = 0 || offset == some 0 || !known letters then none
      else
        let key : SortKey :=
          { startField := field - 1
            startOffset := offset.getD 1 - 1
            options := letters.filter (· != 'b')
            skipsBefore := letters.contains 'b' }
        match rest with
        | [] => some key
        | [stop] =>
          match keyPosition stop with
          | none => none
          | some (field, offset, letters) =>
            if field = 0 || !known letters then none
            else
              some
                { key with
                  stop := some (field, offset.getD 0)
                  options := key.options ++ letters.filter (· != 'b')
                  skipsAtEnd := letters.contains 'b' }
        | _ => none
  | [] => none

/-- Compares two lines by keys. -/
def compareLines (separator : Option Char) (keys : List SortKey) (a b : List Char) : Ordering :=
  match keys with
  | [] => .eq
  | key :: rest =>
    match compareKeys key.options (keyText separator key a) (keyText separator key b) with
    | .eq => compareLines separator rest a b
    | other => other

/-- Drops lines that compare equal to the one before. -/
def withoutRepeats {α : Type} (same : α → α → Bool) : List α → List α
  | [] => []
  | first :: rest =>
    first :: withoutRepeats same (rest.dropWhile fun other => same first other)
termination_by items => items.length
decreasing_by
  have := (List.dropWhile_suffix (l := rest) fun other => same first other).length_le
  simp only [List.length_cons]
  omega

/-- The options of `sort`. -/
def sortTable : OptionTable :=
  { short := "bcCdfghik:mMno:rRsS:t:T:uVz"
    long :=
      [("ignore-leading-blanks", .nothing, 'b'), ("dictionary-order", .nothing, 'd'),
        ("ignore-case", .nothing, 'f'), ("general-numeric-sort", .nothing, 'g'),
        ("ignore-nonprinting", .nothing, 'i'), ("month-sort", .nothing, 'M'),
        ("human-numeric-sort", .nothing, 'h'), ("numeric-sort", .nothing, 'n'),
        ("random-sort", .nothing, 'R'), ("reverse", .nothing, 'r'), ("version-sort", .nothing, 'V'),
        ("check", .optional, 'c'), ("key", .required, 'k'), ("merge", .nothing, 'm'),
        ("output", .required, 'o'), ("stable", .nothing, 's'), ("buffer-size", .required, 'S'),
        ("field-separator", .required, 't'), ("temporary-directory", .required, 'T'),
        ("parallel", .required, 'P'), ("unique", .nothing, 'u'), ("zero-terminated", .nothing, 'z')] }

/-- Puts the lines of files in order. -/
def sort (args : List String) (run : Run) : Run :=
  withOptions sortTable 2 args run fun given run =>
    let letters := given.options.filterMap fun (letter, _) =>
      if "dfgiMhnRrV".contains letter then some letter else none
    let skips := given.has 'b'
    match (given.values 'k').find? fun text => (sortKey? text).isNone with
    | some text =>
      failWith 2 run
        (match text.splitOn "," with
        | start :: _ =>
          match keyPosition start with
          | some (0, _, _) => "-: invalid field specification '" ++ text ++ "'" |>.replace "-: invalid" "field number is zero: invalid"
          | some (_, _, _ :: _) => "stray character in field spec: invalid field specification '" ++ text ++ "'"
          | _ => "invalid number at field start: invalid count at start of '" ++ text ++ "'"
        | [] => "")
    | none =>
      let separatorText := (given.value? 't')
      match separatorText with
      | some "" => failWith 2 run "empty tab"
      | _ =>
        if (separatorText.any fun text => text.length > 1 && text != "\\0") then
          failWith 2 run ("multi-character tab '" ++ separatorText.getD "" ++ "'")
        else
          let separator := separatorText.bind fun text =>
            if text == "\\0" then some (Char.ofNat 0) else text.toList.head?
          let keys := (given.values 'k').filterMap sortKey?
          let inherit (key : SortKey) : SortKey :=
            if key.options.isEmpty && !key.skipsBefore && !key.skipsAtEnd then
              { key with options := letters, skipsBefore := skips, skipsAtEnd := skips }
            else key
          let keys := keys.map inherit
          let keys := if keys.isEmpty && (!letters.isEmpty || skips) then
              [({ options := letters, skipsBefore := skips } : SortKey)]
            else keys
          let order (a b : List Char) : Ordering := compareLines separator keys a b
          let lastResort (a b : List Char) : Ordering :=
            if given.has 'r' then (compareOctets a b).swap else compareOctets a b
          let whole (a b : List Char) : Ordering :=
            match order a b with
            | .eq =>
              if keys.isEmpty then lastResort a b
              else if given.has 's' || given.has 'u' then .eq else lastResort a b
            | other => other
          let stop := if given.has 'z' then Char.ofNat 0 else '\n'
          match (if given.operands.isEmpty then [] else given.operands).findSome? fun name =>
            if name == "-" then none
            else
              match run.sourceOf name with
              | .error fault => some (name, fault)
              | .ok _ => none with
          | some (name, .isADirectory) => failWith 2 run ("read failed: " ++ name ++ ": Is a directory")
          | some (name, fault) => failWith 2 run ("cannot read: " ++ name ++ ": " ++ faultText fault)
          | none =>
            let (texts, run) := gatheredApart shown given.operands run
            if !run.goesOn then run
            else
              let files := texts.map fun text => (recordsOf stop text).map String.toList
              let lines := files.flatten
              if given.hasAny ['c', 'C'] then
                let rec disorder : Nat → List (List Char) → Option (Nat × List Char)
                  | n, a :: b :: rest =>
                    let bad := match whole a b with
                      | .gt => true
                      | .eq => given.has 'u'
                      | .lt => false
                    if bad then some (n + 1, b) else disorder (n + 1) (b :: rest)
                  | _, _ => none
                match disorder 1 lines with
                | none => run.ended 0
                | some (n, line) =>
                  if given.has 'C' || (given.value? 'c').any fun v => v != "diagnose-first" then
                    run.ended 1
                  else
                    fail run (given.operands.headD "-" ++ ":" ++ toString n ++ ": disorder: " ++
                      String.ofList line)
              else
                let isBefore (a b : List Char) : Bool := whole a b != .gt
                let sorted := if given.has 'm' then
                    files.foldl (fun merged file => merged.merge file isBefore) []
                  else lines.mergeSort isBefore
                let kept := if given.has 'u' then
                    withoutRepeats (fun a b => whole a b == .eq) sorted
                  else sorted
                let written := String.join (kept.map fun line =>
                  String.ofList (line ++ [stop]))
                match given.value? 'o' with
                | none => (run.print written).ended run.process.status
                | some name =>
                  match run.writeFile name written false with
                  | .ok run => run
                  | .error fault =>
                    failWith 2 run ("open failed: " ++ name ++ ": " ++ faultText fault)

/-! ## Repeated lines -/

/-- Lines in groups of equal neighbours. -/
def groups {α : Type} (same : α → α → Bool) : List α → List (List α)
  | [] => []
  | first :: rest =>
    match groups same rest with
    | [] => [[first]]
    | [] :: others => [first] :: others
    | (next :: more) :: others =>
      if same first next then (first :: next :: more) :: others
      else [first] :: (next :: more) :: others

/-- Drops or counts lines that repeat the one before. -/
def uniq (args : List String) (run : Run) : Run :=
  let table : OptionTable :=
    { short := "cdDf:is:uw:z"
      long :=
        [("count", .nothing, 'c'), ("repeated", .nothing, 'd'), ("all-repeated", .optional, 'D'),
          ("skip-fields", .required, 'f'), ("ignore-case", .nothing, 'i'),
          ("skip-chars", .required, 's'), ("unique", .nothing, 'u'),
          ("zero-terminated", .nothing, 'z'), ("check-chars", .required, 'w')] }
  withOptions table 1 args run fun given run =>
    let number (letter : Char) : Option Nat := (given.value? letter).bind String.toNat?
    let key (line : String) : List Char :=
      let rest := afterFields none ((number 'f').getD 0) line.toList
      let rest := rest.drop ((number 's').getD 0)
      let rest := match number 'w' with
        | some n => rest.take n
        | none => rest
      if given.has 'i' then rest.map Char.toLower else rest
    let bad (letter : Char) : Bool := (given.value? letter).any fun text => text.toNat?.isNone
    if bad 'f' then fail run ((given.value? 'f').getD "" ++ ": invalid number of fields to skip")
    else if bad 's' then fail run ((given.value? 's').getD "" ++ ": invalid number of bytes to skip")
    else if bad 'w' then
      fail run ((given.value? 'w').getD "" ++ ": invalid number of bytes to compare")
    else
      match given.operands with
      | _ :: _ :: third :: _ => extraOperand run third
      | operands =>
        let stop := if given.has 'z' then Char.ofNat 0 else '\n'
        match contents run (operands.headD "-") with
        | (.error fault, run) =>
          if fault = .isADirectory then
            fail run ("error reading '" ++ operands.headD "-" ++ "'")
          else fail run (shown (operands.headD "-") ++ ": " ++ faultText fault)
        | (.ok text, run) =>
          if !run.goesOn then run
          else
            let close := String.ofList [stop]
            let show' (group : List String) : String :=
              let isRepeated := group.length > 1
              if given.has 'D' then
                if isRepeated then String.join (group.map (· ++ close)) else ""
              else if (given.has 'd' && !isRepeated) || (given.has 'u' && isRepeated) then ""
              else
                (if given.has 'c' then leftPadded 7 (toString group.length) ++ " " else "") ++
                  group.headD "" ++ close
            let written := String.join
              ((groups (fun a b => key a == key b) (recordsOf stop text)).map show')
            match operands with
            | [_, output] =>
              match run.writeFile output written false with
              | .ok run => run.ended 0
              | .error fault => fail run (shown output ++ ": " ++ faultText fault)
            | _ => (run.print written).ended 0

end RunMeter.Shell.Tool
