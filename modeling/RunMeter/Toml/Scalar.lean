import RunMeter.Number.Binary64
import RunMeter.Toml.Table

/-!
# TOML scalars

Readers for the scalar values: strings in their four forms, numbers, dates and the keywords. Each
takes the text at the start of its input and returns what follows. A number or date that has gone
too far to be anything else is refused instead of being read as a shorter value.
-/

set_option autoImplicit false

namespace RunMeter.Toml

/-- The blanks inside a line. -/
def isSpace (c : Char) : Bool := c == ' ' || c == '\t'

/-- Text without the blanks at its start. -/
def skipSpace (text : List Char) : List Char := text.dropWhile isSpace

/-- A character that may stand in comments and strings: the tab, and everything but the other
control characters. -/
def isVisible (c : Char) : Bool := c == '\t' || (0x20 ≤ c.toNat && c.toNat != 0x7f)

/-- What follows a line ending at the start of a text. -/
def newline? : List Char → Option (List Char)
  | '\n' :: rest => some rest
  | '\r' :: '\n' :: rest => some rest
  | _ => none

/-- What follows the comment at the start of a text, if there is one. -/
def skipComment : List Char → List Char
  | '#' :: rest => rest.dropWhile isVisible
  | text => text

/-- The value of a hexadecimal digit. -/
def hexValue? (c : Char) : Option Nat :=
  if c.isDigit then some (c.toNat - '0'.toNat)
  else if 'a' ≤ c ∧ c ≤ 'f' then some (c.toNat - 'a'.toNat + 10)
  else if 'A' ≤ c ∧ c ≤ 'F' then some (c.toNat - 'A'.toNat + 10)
  else none

/-- The character with the given hexadecimal digits, `count` of them. -/
def codePoint? (count : Nat) (text : List Char) : Option (Char × List Char) := do
  let digits ← (text.take count).mapM hexValue?
  if digits.length < count then none
  else
    let n := digits.foldl (fun n digit => n * 16 + digit) 0
    if n.isValidChar then some (Char.ofNat n, text.drop count) else none

/-- The character of an escape after its backslash. -/
def escape? : List Char → Option (Char × List Char)
  | 'b' :: rest => some ('\x08', rest)
  | 't' :: rest => some ('\t', rest)
  | 'n' :: rest => some ('\n', rest)
  | 'f' :: rest => some ('\x0c', rest)
  | 'r' :: rest => some ('\r', rest)
  | '"' :: rest => some ('"', rest)
  | '\\' :: rest => some ('\\', rest)
  | 'u' :: rest => codePoint? 4 rest
  | 'U' :: rest => codePoint? 8 rest
  | _ => none

/-- A string between double quotes, after the opening one. -/
def basicString? : (fuel : Nat) → (collected : List Char) → List Char →
    Option (String × List Char)
  | 0, _, _ => none
  | fuel + 1, collected, text =>
    match text with
    | [] => none
    | '"' :: rest => some (String.ofList collected.reverse, rest)
    | '\\' :: rest =>
      match escape? rest with
      | some (c, rest) => basicString? fuel (c :: collected) rest
      | none => none
    | c :: rest => if isVisible c then basicString? fuel (c :: collected) rest else none

/-- A string between single quotes, after the opening one. -/
def literalString? : (collected : List Char) → List Char → Option (String × List Char)
  | _, [] => none
  | collected, c :: rest =>
    if c = '\'' then some (String.ofList collected.reverse, rest)
    else if isVisible c then literalString? (c :: collected) rest
    else none

/-- The end of a string in tripled quotes: the quotes at the start of `text`, of which up to two
belong to the string. -/
def closingQuotes? (quote : Char) (collected : List Char) (text : List Char) :
    Option (String × List Char) :=
  let count := (text.takeWhile (· == quote)).length
  if count < 3 ∨ count > 5 then none
  else
    let content := List.replicate (count - 3) quote ++ collected
    some (String.ofList content.reverse, text.drop count)

/-- Blanks and line endings after a backslash at the end of a line. -/
def skipFolded : (fuel : Nat) → List Char → List Char
  | 0, text => text
  | fuel + 1, text =>
    let text := skipSpace text
    match newline? text with
    | some rest => skipFolded fuel rest
    | none => text

/-- A string between tripled double quotes, after the opening ones. -/
def longBasicString? : (fuel : Nat) → (collected : List Char) → List Char →
    Option (String × List Char)
  | 0, _, _ => none
  | fuel + 1, collected, text =>
    match text with
    | [] => none
    | '"' :: '"' :: '"' :: _ => closingQuotes? '"' collected text
    | '"' :: rest => longBasicString? fuel ('"' :: collected) rest
    | '\\' :: rest =>
      match newline? (skipSpace rest) with
      | some rest => longBasicString? fuel collected (skipFolded rest.length rest)
      | none =>
        match escape? rest with
        | some (c, rest) => longBasicString? fuel (c :: collected) rest
        | none => none
    | c :: rest =>
      match newline? text with
      | some rest => longBasicString? fuel ('\n' :: collected) rest
      | none => if isVisible c then longBasicString? fuel (c :: collected) rest else none

/-- A string between tripled single quotes, after the opening ones. -/
def longLiteralString? : (fuel : Nat) → (collected : List Char) → List Char →
    Option (String × List Char)
  | 0, _, _ => none
  | fuel + 1, collected, text =>
    match text with
    | [] => none
    | '\'' :: '\'' :: '\'' :: _ => closingQuotes? '\'' collected text
    | c :: rest =>
      match newline? text with
      | some rest => longLiteralString? fuel ('\n' :: collected) rest
      | none =>
        if isVisible c then longLiteralString? fuel (c :: collected) rest else none

/-- A string value. A line ending right after tripled quotes does not count. -/
def string? (text : List Char) : Option (String × List Char) :=
  let fuel := text.length
  match text with
  | '"' :: '"' :: '"' :: rest => longBasicString? fuel [] ((newline? rest).getD rest)
  | '"' :: rest => basicString? fuel [] rest
  | '\'' :: '\'' :: '\'' :: rest => longLiteralString? fuel [] ((newline? rest).getD rest)
  | '\'' :: rest => literalString? [] rest
  | _ => none

/-- Digits of a class with single underscores between them, and what follows. The digits are
returned without the underscores; an underscore without a digit after it is an error. -/
def spacedDigits? (isMember : Char → Bool) : (collected : List Char) → List Char →
    Option (List Char × List Char)
  | collected, '_' :: c :: rest =>
    if collected.isEmpty || !isMember c then none
    else spacedDigits? isMember (c :: collected) rest
  | collected, c :: rest =>
    if isMember c then spacedDigits? isMember (c :: collected) rest
    else if collected.isEmpty || c == '_' then none
    else some (collected.reverse, c :: rest)
  | collected, [] => if collected.isEmpty then none else some (collected.reverse, [])

/-- The number with the given digits in a base. -/
def ofDigits (base : Nat) (digits : List Char) : Nat :=
  digits.foldl (fun n c => n * base + (hexValue? c).getD 0) 0

/-- The largest whole number. -/
def largestInteger : Nat := 2 ^ 63 - 1

/-- A whole number in base 16, 8 or 2, after its two-character mark. -/
def basedInteger? (base : Nat) (text : List Char) : Option (Node × List Char) := do
  let (digits, rest) ← spacedDigits? (fun c => (hexValue? c).any (· < base)) [] text
  let n := ofDigits base digits
  if n ≤ largestInteger then some (.integer n, rest) else none

/-- The two digits at the start of a text, if they make a number in the given range. -/
def twoDigits? (low high : Nat) : List Char → Option (Nat × List Char)
  | a :: b :: rest =>
    if a.isDigit && b.isDigit then
      let n := Decimal.value [a, b]
      if low ≤ n ∧ n ≤ high then some (n, rest) else none
    else none
  | _ => none

/-- What follows a fraction of a second at the start of a text, if there is one. -/
def skipFraction? : List Char → Option (List Char)
  | '.' :: rest =>
    if (rest.takeWhile Char.isDigit).isEmpty then none else some (rest.dropWhile Char.isDigit)
  | text => some text

/-- What follows a time of day. The outer level is missing if no time begins here; the inner one if
a time begins and is not finished. -/
def time? (text : List Char) : Option (Option (List Char)) :=
  match twoDigits? 0 23 text with
  | some (_, ':' :: rest) =>
    some do
      let (_, rest) ← twoDigits? 0 59 rest
      match rest with
      | ':' :: rest =>
        let (_, rest) ← twoDigits? 0 60 rest
        -- a point without digits after it is left over
        some ((skipFraction? rest).getD rest)
      | _ => none
  | _ => none

/-- What follows an offset from universal time, which may be absent. -/
def offset? : List Char → Option (List Char)
  | 'Z' :: rest => some rest
  | 'z' :: rest => some rest
  | c :: rest =>
    if c == '+' || c == '-' then do
      let (_, rest) ← twoDigits? 0 23 rest
      match rest with
      | ':' :: rest => do
        let (_, rest) ← twoDigits? 0 59 rest
        some rest
      | _ => none
    else some (c :: rest)
  | [] => some []

/-- The number of days in a month. -/
def daysIn (year month : Nat) : Nat :=
  if month = 2 then
    if (year % 4 = 0 ∧ year % 100 ≠ 0) ∨ year % 400 = 0 then 29 else 28
  else if month = 4 ∨ month = 6 ∨ month = 9 ∨ month = 11 then 30
  else 31

/-- What follows the time and offset after a date. -/
def afterDate? (text : List Char) : Option (List Char) :=
  match text with
  | c :: rest =>
    if c == 'T' || c == 't' || c == ' ' then
      match time? rest with
      | none => some text
      | some none => none
      | some (some rest) => offset? rest
    else some text
  | [] => some []

/-- What follows a date or time. The outer level is missing if none begins here, the inner one if
one begins and is malformed. -/
def dateTime? (text : List Char) : Option (Option (List Char)) :=
  let year := text.take 4
  if year.length = 4 ∧ year.all Char.isDigit ∧ (text.drop 4).head? = some '-' then
    some do
      let (month, rest) ← twoDigits? 1 12 (text.drop 5)
      match rest with
      | '-' :: rest =>
        let (day, rest) ← twoDigits? 1 31 rest
        if daysIn (Decimal.value year) month < day then none else afterDate? rest
      | _ => none
  else time? text

/-- The digits of a whole number in base 10 at the start of a text. Nothing follows a leading
zero. -/
def wholeDigits? : List Char → Option (List Char × List Char)
  | '0' :: rest => some (['0'], rest)
  | text => spacedDigits? Char.isDigit [] text

/-- The digits of an exponent after its mark. -/
def exponent? (text : List Char) : Option (Int × List Char) :=
  let (isNegative, text) := match text with
    | '-' :: rest => (true, rest)
    | '+' :: rest => (false, rest)
    | text => (false, text)
  (spacedDigits? Char.isDigit [] text).map fun (digits, rest) =>
    let size : Int := min (Decimal.value digits) (2 ^ 31)
    (if isNegative then -size else size, rest)

/-- Whether a text begins with the mark of an exponent. -/
def startsExponent (text : List Char) : Bool :=
  text.head? == some 'e' || text.head? == some 'E'

/-- A double must not be positive infinity. -/
def checkReal? (isNegative : Bool) (whole fraction : List Char) (exponent : Int)
    (rest : List Char) : Option (Node × List Char) :=
  let x := Binary64.ofDecimal (Decimal.value (whole ++ fraction))
    (exponent - (fraction.length : Int))
  if x.isInf && !isNegative then none else some (.scalar, rest)

/-- A number in base 10 after its sign. -/
def decimal? (isNegative : Bool) (text : List Char) : Option (Node × List Char) := do
  let (whole, rest) ← wholeDigits? text
  match rest with
  | '.' :: rest =>
    let (fraction, rest) ← spacedDigits? Char.isDigit [] rest
    if startsExponent rest then
      let (exponent, rest) ← exponent? (rest.drop 1)
      checkReal? isNegative whole fraction exponent rest
    else checkReal? isNegative whole fraction 0 rest
  | rest =>
    if startsExponent rest then
      let (exponent, rest) ← exponent? (rest.drop 1)
      checkReal? isNegative whole [] exponent rest
    else
      let n := Decimal.value whole
      if isNegative then
        if n ≤ largestInteger + 1 then some (.integer (-(n : Int)), rest) else none
      else if n ≤ largestInteger then some (.integer n, rest)
      else none

/-- What follows one of the keywords at the start of a text. -/
def keyword? (words : List String) (text : List Char) : Option (List Char) :=
  words.findSome? fun word =>
    if word.toList.isPrefixOf text then some (text.drop word.length) else none

/-- A number, with its sign. -/
def number? (text : List Char) : Option (Node × List Char) :=
  match text with
  | '0' :: 'x' :: rest => basedInteger? 16 rest
  | '0' :: 'o' :: rest => basedInteger? 8 rest
  | '0' :: 'b' :: rest => basedInteger? 2 rest
  | c :: rest =>
    if c == '+' || c == '-' then
      match keyword? ["inf", "nan"] rest with
      | some rest => some (.scalar, rest)
      | none => decimal? (c == '-') rest
    else decimal? false text
  | [] => none

/-- A scalar value at the start of a text, and what follows it. -/
def scalar? (text : List Char) : Option (Node × List Char) :=
  match text with
  | [] => none
  | c :: _ =>
    if c == '"' || c == '\'' then
      (string? text).map fun (s, rest) => (.string s, rest)
    else if c == '+' || c == '-' || c.isDigit then
      match dateTime? text with
      | some (some rest) => some (.moment, rest)
      | some none => none
      | none => number? text
    else (keyword? ["true", "false", "inf", "nan"] text).map fun rest => (.scalar, rest)

end RunMeter.Toml
