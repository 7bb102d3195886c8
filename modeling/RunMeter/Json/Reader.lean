import RunMeter.Json.Value
import RunMeter.Number.Binary64
import RunMeter.Saturating

/-!
# Reading JSON

A reader for one JSON document. Whole numbers that fit into 64 bits stay whole; all others become
doubles, by scaling the leading digits with a power of ten rather than by exact rounding. Nesting
deeper than 127 levels is refused. The members of an object are kept as they stand, repeated keys
included: what a repetition means is for the user of the document to say.
-/

set_option autoImplicit false

namespace RunMeter.Json

/-- The blanks of JSON. -/
def isSpace (c : Char) : Bool := c == ' ' || c == '\n' || c == '\t' || c == '\r'

/-- Text without the blanks at its start. -/
def skipSpace (text : List Char) : List Char := text.dropWhile isSpace

/-- Appends digits to a significand as long as it stays a word; returns how many were taken. -/
def absorb (significand : Nat) : List Char → Nat × Nat
  | [] => (significand, 0)
  | c :: rest =>
    let next := significand * 10 + (c.toNat - '0'.toNat)
    if maxWord < next then (significand, 0)
    else
      let (final, taken) := absorb next rest
      (final, taken + 1)

/-- `x × 10 ^ exponent` by multiplication or division with powers of ten that are doubles. Small
exponents are worked off in steps, at most `fuel` of them; a result out of range is infinite. -/
def scale : (fuel : Nat) → (x : Float) → (exponent : Int) → Float
  | 0, x, _ => x
  | fuel + 1, x, exponent =>
    if exponent.natAbs ≤ 308 then
      let power := Binary64.ofDecimal 1 exponent.natAbs
      if exponent ≥ 0 then x * power else x / power
    else if x == 0.0 then x
    else if exponent ≥ 0 then 1.0 / 0.0
    else scale fuel (x / 1e308) (exponent + 308)

/-- The double that a number with a point, an exponent or too many digits stands for. -/
def realOfParts (whole fraction : List Char) (exponent : Int) : Float :=
  let (significand, taken) := absorb 0 whole
  let dropped := whole.length - taken
  let (significand, taken) := absorb significand fraction
  if significand = 0 then 0.0
  else
    scale 8 (UInt64.ofNat significand).toFloat ((dropped : Int) - (taken : Int) + exponent)

/-- An exponent after its `e`, as far as it goes. -/
def readExponent? (text : List Char) : Option (Int × List Char) :=
  let (isNegative, text) := match text with
    | '-' :: rest => (true, rest)
    | '+' :: rest => (false, rest)
    | rest => (false, rest)
  let digits := text.takeWhile Char.isDigit
  if digits.isEmpty then none
  else
    let size := min (Decimal.value digits) (2 ^ 31)
    some (if isNegative then -(size : Int) else size, text.dropWhile Char.isDigit)

/-- A number without its sign, and what follows it. -/
def readMagnitude? (text : List Char) : Option (JsonNumber × List Char) :=
  let whole := text.takeWhile Char.isDigit
  let rest := text.dropWhile Char.isDigit
  if whole.isEmpty || (whole.head? == some '0' && whole.length > 1) then none
  else
    let fractionPart : Option (Option (List Char) × List Char) := match rest with
      | '.' :: rest =>
        let fraction := rest.takeWhile Char.isDigit
        if fraction.isEmpty then none else some (some fraction, rest.dropWhile Char.isDigit)
      | _ => some (none, rest)
    match fractionPart with
    | none => none
    | some (fraction, rest) =>
      let exponentPart : Option (Option Int × List Char) := match rest with
        | c :: rest' =>
          if c == 'e' || c == 'E' then
            (readExponent? rest').map fun (exponent, rest) => (some exponent, rest)
          else some (none, rest)
        | [] => some (none, rest)
      match exponentPart with
      | none => none
      | some (exponent, rest) =>
        let n := Decimal.value whole
        if fraction.isNone && exponent.isNone && n ≤ maxWord then some (.natural n, rest)
        else some (.real (realOfParts whole (fraction.getD []) (exponent.getD 0)), rest)

/-- The negative of a number that was read. Zero and numbers below the least 64-bit integer are
doubles. -/
def negate : JsonNumber → JsonNumber
  | .natural n => if n = 0 ∨ 2 ^ 63 < n then .real (-(UInt64.ofNat n).toFloat) else .negative n
  | .negative n => .natural n
  | .real x => .real (-x)

/-- A number at the start of a text, and what follows it. -/
def readNumber? : List Char → Option (JsonNumber × List Char)
  | '-' :: rest => (readMagnitude? rest).map fun (n, rest) => (negate n, rest)
  | text => readMagnitude? text

/-- The value of a hexadecimal digit. -/
def hexValue? (c : Char) : Option Nat :=
  if c.isDigit then some (c.toNat - '0'.toNat)
  else if 'a' ≤ c ∧ c ≤ 'f' then some (c.toNat - 'a'.toNat + 10)
  else if 'A' ≤ c ∧ c ≤ 'F' then some (c.toNat - 'A'.toNat + 10)
  else none

/-- Four hexadecimal digits. -/
def readUnit? : List Char → Option (Nat × List Char)
  | a :: b :: c :: d :: rest => do
    let a ← hexValue? a
    let b ← hexValue? b
    let c ← hexValue? c
    let d ← hexValue? d
    some (((a * 16 + b) * 16 + c) * 16 + d, rest)
  | _ => none

/-- The character that one short escape stands for. -/
def shortEscape? : Char → Option Char
  | '"' => some '"'
  | '\\' => some '\\'
  | '/' => some '/'
  | 'b' => some '\x08'
  | 'f' => some '\x0c'
  | 'n' => some '\n'
  | 'r' => some '\r'
  | 't' => some '\t'
  | _ => none

/-- The character of a `\u` escape, whose units may be a surrogate pair. -/
def readCodePoint? (text : List Char) : Option (Char × List Char) := do
  let (first, rest) ← readUnit? text
  if 0xD800 ≤ first ∧ first ≤ 0xDBFF then
    match rest with
    | '\\' :: 'u' :: rest =>
      let (second, rest) ← readUnit? rest
      if 0xDC00 ≤ second ∧ second ≤ 0xDFFF then
        some (Char.ofNat (0x10000 + (first - 0xD800) * 0x400 + (second - 0xDC00)), rest)
      else none
    | _ => none
  else if 0xDC00 ≤ first ∧ first ≤ 0xDFFF then none
  else some (Char.ofNat first, rest)

/-- The characters of a string up to its closing quote, collected backwards. -/
def readChars? : (fuel : Nat) → (collected : List Char) → List Char → Option (String × List Char)
  | 0, _, _ => none
  | _ + 1, collected, '"' :: rest => some (String.ofList collected.reverse, rest)
  | fuel + 1, collected, '\\' :: 'u' :: rest => do
    let (c, rest) ← readCodePoint? rest
    readChars? fuel (c :: collected) rest
  | fuel + 1, collected, '\\' :: c :: rest => do
    let c ← shortEscape? c
    readChars? fuel (c :: collected) rest
  | fuel + 1, collected, c :: rest =>
    if c.toNat < 0x20 ∨ c = '\\' then none else readChars? fuel (c :: collected) rest
  | _ + 1, _, [] => none

/-- The string whose opening quote has been read. -/
def readString? (text : List Char) : Option (String × List Char) :=
  readChars? (text.length + 1) [] text

/-- What follows a literal word. -/
def keyword? (word : List Char) (value : Json) (text : List Char) : Option (Json × List Char) :=
  if word.isPrefixOf text then some (value, text.drop word.length) else none

mutual

/-- A value at the start of a text, and what follows it. `depth` is the nesting that is left. -/
def readValue? : (fuel depth : Nat) → List Char → Option (Json × List Char)
  | 0, _, _ => none
  | fuel + 1, depth, text =>
    match skipSpace text with
    | [] => none
    | '"' :: rest => (readString? rest).map fun (s, rest) => (.string s, rest)
    | '[' :: rest =>
      match depth with
      | 0 | 1 => none
      | depth + 1 =>
        match skipSpace rest with
        | ']' :: rest => some (.array [], rest)
        | rest => (readItems? fuel depth [] rest).map fun (items, rest) => (.array items, rest)
    | '\x7b' :: rest =>
      match depth with
      | 0 | 1 => none
      | depth + 1 =>
        match skipSpace rest with
        | '\x7d' :: rest => some (.object [], rest)
        | rest =>
          (readMembers? fuel depth [] rest).map fun (members, rest) => (.object members, rest)
    | 't' :: rest => keyword? ['r', 'u', 'e'] (.bool true) rest
    | 'f' :: rest => keyword? ['a', 'l', 's', 'e'] (.bool false) rest
    | 'n' :: rest => keyword? ['u', 'l', 'l'] .null rest
    | rest => (readNumber? rest).map fun (n, rest) => (.number n, rest)

/-- The items of an array up to its end. -/
def readItems? : (fuel depth : Nat) → (collected : List Json) → List Char →
    Option (List Json × List Char)
  | 0, _, _, _ => none
  | fuel + 1, depth, collected, text => do
    let (item, rest) ← readValue? fuel depth text
    match skipSpace rest with
    | ',' :: rest => readItems? fuel depth (item :: collected) rest
    | ']' :: rest => some ((item :: collected).reverse, rest)
    | _ => none

/-- The members of an object up to its end. -/
def readMembers? : (fuel depth : Nat) → (collected : List (String × Json)) → List Char →
    Option (List (String × Json) × List Char)
  | 0, _, _, _ => none
  | fuel + 1, depth, collected, text => do
    match skipSpace text with
    | '"' :: rest =>
      let (key, rest) ← readString? rest
      match skipSpace rest with
      | ':' :: rest =>
        let (value, rest) ← readValue? fuel depth rest
        match skipSpace rest with
        | ',' :: rest => readMembers? fuel depth ((key, value) :: collected) rest
        | '\x7d' :: rest => some (((key, value) :: collected).reverse, rest)
        | _ => none
      | _ => none
    | _ => none

end

/-- The document that a text is. -/
def parse? (text : String) : Option Json :=
  let chars := text.toList
  match readValue? (2 * chars.length + 2) 128 chars with
  | some (value, rest) => if (skipSpace rest).isEmpty then some value else none
  | none => none

end RunMeter.Json
