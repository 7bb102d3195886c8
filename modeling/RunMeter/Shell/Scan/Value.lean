import RunMeter.Number.Notation
import RunMeter.Shell.Print
import Std.Data.HashMap

/-!
# Values of programs that scan records

A value is a number or a text, and each is read as the other where that is needed. What comes from
the input counts as a number in comparisons if it looks like one.
-/

set_option autoImplicit false

namespace RunMeter.Shell.Scan

/-- A value. -/
inductive Value
  | unset
  | number (value : Float)
  | text (value : String)
  /-- A text from the input, and the number that it looks like. -/
  | input (value : String) (number : Option Float)

namespace Value

/-- The characters that may stand before and behind a number. -/
def isSpace (c : Char) : Bool := c == ' ' || ('\t' ≤ c && c ≤ '\r')

/-- The number at the start of a text, and what follows. -/
def leadingNumber (text : String) : Float × List Char :=
  match Quantity.read? (text.toList.dropWhile isSpace) with
  | some (quantity, rest) => (quantity.toFloat, rest)
  | none => (0.0, text.toList)

/-- The number that a text looks like. -/
def apparentNumber? (text : String) : Option Float :=
  match Quantity.read? (text.toList.dropWhile isSpace) with
  | some (quantity, rest) => if rest.all isSpace then some quantity.toFloat else none
  | none => none

/-- A value that comes from the input. -/
def ofInput (text : String) : Value := .input text (apparentNumber? text)

/-- A whole number as a value. -/
def ofNat (n : Nat) : Value := .number (Float.ofNat n)

/-- One for what holds, and zero for what does not. -/
def ofBool (holds : Bool) : Value := .number (if holds then 1.0 else 0.0)

/-- A value as a number. -/
def toNumber : Value → Float
  | .unset => 0.0
  | .number value => value
  | .text value => (leadingNumber value).1
  | .input _ (some value) => value
  | .input value none => (leadingNumber value).1

/-- A number to be written; a result that is none has a minus sign. -/
def quantityOf (x : Float) : Quantity :=
  match Quantity.ofFloat x with
  | .notANumber _ => .notANumber true
  | quantity => quantity

/-- A finite number without its places. -/
def truncated (x : Float) : Int :=
  match Quantity.ofFloat x with
  | .finite isNegative n d => if isNegative then -((n / d : Nat) : Int) else ((n / d : Nat) : Int)
  | .infinite isNegative => if isNegative then -(2 ^ 63) else 2 ^ 63
  | .notANumber _ => 0

/-- A value as a whole number that is not negative. -/
def toNat (value : Value) : Nat := (truncated value.toNumber).toNat

/-- Whether a number is whole. -/
def isWhole (x : Float) : Bool :=
  match Quantity.ofFloat x with
  | .finite _ n d => n % d = 0
  | _ => false

/-- The directive that a format for numbers begins with. -/
def numberDirective (format : String) : Print.Directive :=
  match format.toList.dropWhile (· != '%') with
  | '%' :: rest =>
    match Print.directive? .tool { words := [] } rest with
    | some (directive, _, _) => directive
    | none => { conversion := 'g' }
  | _ => { conversion := 'g' }

/-- A number as text: whole ones with all digits, others by a format. -/
def numberText (format : String) (x : Float) : String :=
  match quantityOf x with
  | .finite isNegative n d =>
    if n % d = 0 && n / d ≤ 2 ^ (if isNegative then 63 else 64) then
      (if isNegative && n != 0 then "-" else "") ++ toString (min (n / d) (2 ^ 64 - 1))
    else (numberDirective format).quantity (.finite isNegative n d)
  | quantity => ({ conversion := 'g' } : Print.Directive).quantity quantity

/-- A value as text. -/
def toText (format : String) : Value → String
  | .unset => ""
  | .number value => numberText format value
  | .text value => value
  | .input value _ => value

/-- Whether a value counts as true. -/
def isTrue : Value → Bool
  | .unset => false
  | .number value => value != 0.0
  | .text value => !value.isEmpty
  | .input _ (some value) => value != 0.0
  | .input value none => !value.isEmpty

/-- The number that a value stands for in comparisons. -/
def comparable? : Value → Option Float
  | .unset => some 0.0
  | .number value => some value
  | .text _ => none
  | .input _ apparent => apparent

end Value

/-- What is left of two numbers after whole divisions, with the sign of the first. -/
def remainderOf (x y : Float) : Float :=
  match Quantity.ofFloat x, Quantity.ofFloat y with
  | .finite isNegative n d, .finite _ m e =>
    if m = 0 then 0.0 / 0.0
    else
      let rest := (n * e) % (m * d)
      let size := Binary64.ofRatio rest (d * e)
      if isNegative then -size else size
  | .finite _ _ _, .infinite _ => x
  | _, _ => 0.0 / 0.0

/-! ## Formats -/

/-- The text by a format, or what was written before its arguments ran out. -/
abbrev Written := Except String String

/-- The text of a value under a directive. -/
def directiveText (convert : String) (directive : Print.Directive) (value : Value) : Option String :=
  let cut (text : String) : String :=
    match directive.precision with
    | some precision => (text.take precision).toString
    | none => text
  let whole (x : Float) : Int := Value.truncated x
  match directive.conversion with
  | 's' => some (directive.pad false (cut (value.toText convert)))
  | 'c' =>
    let c := match value with
      | .number x => String.ofList [Char.ofNat ((whole x).emod 256).toNat]
      | value =>
        let text := value.toText convert
        if text.isEmpty then String.ofList [Char.ofNat 0] else (text.take 1).toString
    some (directive.pad false c)
  | 'd' | 'i' =>
    let x := value.toNumber
    let n : Int := if x.isNaN then -(2 ^ 63) else max (-(2 ^ 63)) (min (2 ^ 63 - 1) (whole x))
    let digits := directive.digits 10 n.natAbs
    some (directive.pad directive.precision.isNone (directive.sign (n < 0) ++ digits))
  | 'u' | 'o' | 'x' | 'X' =>
    let n := ((whole value.toNumber).emod (2 ^ 64)).toNat
    let (base, lead) := match directive.conversion with
      | 'u' => (10, "")
      | 'o' => (8, "0")
      | 'x' => (16, "0x")
      | _ => (16, "0X")
    let digits := directive.digits base n
    let digits := if directive.conversion == 'X' then digits.map Char.toUpper else digits
    let lead := if directive.flags.contains '#' && n != 0 then lead else ""
    some (directive.pad directive.precision.isNone (lead ++ digits))
  | 'f' | 'F' | 'e' | 'E' | 'g' | 'G' =>
    some (directive.quantity (Value.quantityOf value.toNumber))
  | _ => none

/-- A count in a format, or the next value for a star. -/
def formatCount (values : List Value) (ahead : List Char) :
    Option Int × List Char × List Value :=
  match ahead with
  | '*' :: rest => (some (Value.truncated (values.headD .unset).toNumber), rest, values.drop 1)
  | ahead =>
    let digits := ahead.takeWhile Char.isDigit
    ((String.ofList digits).toNat?.map fun n => (n : Int), ahead.drop digits.length, values)

/-- The text by a format. `fuel` is more than the length of the format. -/
def writtenBy (convert : String) (done : String) : (fuel : Nat) → List Value → List Char → Written
  | 0, _, _ => .ok done
  | _, _, [] => .ok done
  | fuel + 1, values, '%' :: '%' :: rest => writtenBy convert (done.push '%') fuel values rest
  | fuel + 1, values, '%' :: rest =>
    let isFlag (c : Char) : Bool := "#-+ 0".contains c
    let flags := rest.takeWhile isFlag
    let (width, ahead, values) := formatCount values (rest.drop flags.length)
    let (precision, ahead, values) := match ahead with
      | '.' :: more =>
        let (n, more, values) := formatCount values more
        (some (n.getD 0).toNat, more, values)
      | ahead => (none, ahead, values)
    let ahead := ahead.dropWhile fun c => c == 'l' || c == 'h'
    let flags := if width.any (· < 0) then '-' :: flags else flags
    match ahead with
    | [] => .ok (done ++ String.ofList ('%' :: rest))
    | conversion :: more =>
      match values with
      | [] => .error done
      | value :: others =>
        let directive : Print.Directive :=
          { flags, width := width.map Int.natAbs, precision, conversion }
        match directiveText convert directive value with
        | some text => writtenBy convert (done ++ text) fuel others more
        | none => .error done
  | fuel + 1, values, c :: rest => writtenBy convert (done.push c) fuel values rest

/-- The text that a format makes of values. -/
def formatted (convert format : String) (values : List Value) : Written :=
  writtenBy convert "" (format.length + 1) values format.toList

/-! ## Arrays -/

/-- An array: values under texts. Every entry knows when it was last looked up. -/
structure Table where
  entries : Std.HashMap String (Nat × Value) := {}
  clock : Nat := 0

namespace Table

/-- The number by which a text finds its place among others. -/
def scatter (key : String) : UInt32 :=
  key.toList.foldl (fun hash c => (hash ^^^ c.toNat.toUInt32) * 16777619) 2166136261

/-- The number of places for so many entries, less one. -/
def lastPlace (count : Nat) : (fuel : Nat) → Nat → Nat
  | 0, last => last
  | fuel + 1, last => if last * 12 < count then lastPlace count fuel (2 * last + 1) else last

/-- The number of entries. -/
def size (table : Table) : Nat := table.entries.size

/-- Whether there is an entry. -/
def has (table : Table) (key : String) : Bool := table.entries.contains key

/-- Sets an entry. -/
def set (table : Table) (key : String) (value : Value) : Table :=
  { entries := table.entries.insert key (table.clock, value), clock := table.clock + 1 }

/-- Looks up an entry, which is there from then on. -/
def get (table : Table) (key : String) : Value × Table :=
  let value := ((table.entries.get? key).map (·.2)).getD .unset
  (value, table.set key value)

/-- Removes an entry. -/
def erase (table : Table) (key : String) : Table :=
  { table with entries := table.entries.erase key }

/-- The texts in the order in which a loop goes through them: by place, and at one place those that
were looked up later first. -/
def keys (table : Table) : List String :=
  let last := lastPlace table.size 32 63
  let place (key : String) : Nat := (scatter key).toNat % (last + 1)
  let isBefore (a b : Nat × Nat × String) : Bool := a.1 < b.1 || (a.1 = b.1 && b.2.1 ≤ a.2.1)
  let placed := table.entries.toList.map fun (key, tick, _) => (place key, tick, key)
  (placed.mergeSort isBefore).map (·.2.2)

end Table

end RunMeter.Shell.Scan
