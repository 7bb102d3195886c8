import RunMeter.Number.Notation
import RunMeter.Shell.Arithmetic
import RunMeter.Shell.Quoting

/-!
# Printing by a format

How `echo` and `printf` turn words into output. A backslash begins an escape, a percent sign a
directive; a format is used again as long as words are left, and words that are missing count as
empty or zero.
-/

set_option autoImplicit false

namespace RunMeter.Shell.Print

/-- Who prints: a shell, or a tool of its own. -/
inductive Printer
  | shell (dialect : Dialect)
  | tool
deriving DecidableEq, Repr

/-- Whether it is a tool. -/
def Printer.isTool (printer : Printer) : Bool := printer == .tool

/-- Whether it knows hexadecimal numbers. -/
def Printer.knowsHex (printer : Printer) : Bool := printer != .shell .plain

/-- Octal digits at the front, at most `count`, and what follows them. -/
def octal (count : Nat) (value : Nat) : List Char → Nat × List Char
  | c :: rest =>
    if count = 0 then (value, c :: rest)
    else if '0' ≤ c ∧ c ≤ '7' then octal (count - 1) (value * 8 + (c.toNat - 48)) rest
    else (value, c :: rest)
  | [] => (value, [])

/-- The character that an escape stands for, given what follows the backslash, and the rest. A
backslash that begins no escape stands for itself. Only some readers know hexadecimal numbers. -/
def escape (printer : Printer) (ahead : List Char) : Char × List Char :=
  match ahead with
  | 'a' :: rest => ('\x07', rest)
  | 'b' :: rest => ('\x08', rest)
  | 'e' :: rest => ('\x1b', rest)
  | 'f' :: rest => ('\x0c', rest)
  | 'n' :: rest => ('\n', rest)
  | 'r' :: rest => ('\r', rest)
  | 't' :: rest => ('\t', rest)
  | 'v' :: rest => ('\x0b', rest)
  | '\\' :: rest => ('\\', rest)
  | c :: rest =>
    if '0' ≤ c ∧ c ≤ '7' then
      let (value, rest) := octal 3 0 (c :: rest)
      (Char.ofNat (value % 256), rest)
    else if printer.knowsHex && c == '"' then ('"', rest)
    else if printer.knowsHex && c == 'x' then
      let digits := (rest.take 2).takeWhile fun d => (Arithmetic.digit? d).isSome
      match Arithmetic.inBase? 16 digits with
      | some value => (Char.ofNat value, rest.drop digits.length)
      | none => ('\\', c :: rest)
    else if printer == .shell .extended && c == 'E' then ('\x1b', rest)
    else if printer == .shell .extended && c == 'u' then
      let digits := (rest.take 4).takeWhile fun d => (Arithmetic.digit? d).isSome
      match Arithmetic.inBase? 16 digits with
      | some value => if value < 128 then (Char.ofNat value, rest.drop digits.length) else ('\\', c :: rest)
      | none => ('\\', c :: rest)
    else ('\\', c :: rest)
  | [] => ('\\', [])

/-- Replaces the escapes in a word, and says whether the output ends there. In a line, octal numbers begin
with a zero. `fuel` is more than the length of the word. -/
def unescapeWithin (printer : Printer) (isLine : Bool) (reversed : List Char) :
    (fuel : Nat) → List Char → String × Bool
  | 0, _ => (String.ofList reversed.reverse, false)
  | _, [] => (String.ofList reversed.reverse, false)
  | _ + 1, '\\' :: 'c' :: _ => (String.ofList reversed.reverse, true)
  | fuel + 1, '\\' :: '0' :: rest =>
    let (value, rest) := octal 3 0 rest
    unescapeWithin printer isLine (Char.ofNat (value % 256) :: reversed) fuel rest
  | fuel + 1, '\\' :: rest =>
    let isPlain := isLine && rest.head?.any Char.isDigit
    let (c, rest) := if isPlain then ('\\', rest) else escape printer rest
    unescapeWithin printer isLine (c :: reversed) fuel rest
  | fuel + 1, c :: rest => unescapeWithin printer isLine (c :: reversed) fuel rest

/-- Replaces the escapes in a word, and says whether the output ends there. -/
def unescape (printer : Printer) (word : String) : String × Bool :=
  unescapeWithin printer false [] (word.length + 1) word.toList

/-- The line that a shell's own `echo` prints. -/
def echoLine (words : List String) : String :=
  let (words, endsLine) := match words with
    | "-n" :: rest => (rest, false)
    | words => (words, true)
  let (text, isCut) := unescape (.shell .plain) (" ".intercalate words)
  if isCut || !endsLine then text else text ++ "\n"

/-- The options at the start of the words of the `echo` tool: whether the line is ended, whether
escapes are replaced, and the words after them. -/
def echoOptions (endsLine replaces : Bool) : List String → Bool × Bool × List String
  | word :: rest =>
    match word.toList with
    | '-' :: c :: letters =>
      if (c :: letters).all fun c => c == 'n' || c == 'e' || c == 'E' then
        let replaces := (c :: letters).foldl
          (fun replaces c => if c == 'e' then true else if c == 'E' then false else replaces) replaces
        echoOptions (endsLine && !(c :: letters).contains 'n') replaces rest
      else (endsLine, replaces, word :: rest)
    | _ => (endsLine, replaces, word :: rest)
  | [] => (endsLine, replaces, [])

/-- The line that the `echo` tool prints. -/
def echoToolLine (words : List String) : String :=
  let (endsLine, replaces, words) := echoOptions true false words
  let line := " ".intercalate words
  let (text, isCut) := if replaces then unescape .tool line else (line, false)
  if isCut || !endsLine then text else text ++ "\n"

/-- The line that `echo` prints in the extended dialect. -/
def echoExtendedLine (words : List String) : String :=
  let (endsLine, replaces, words) := echoOptions true false words
  let line := " ".intercalate words
  let (text, isCut) :=
    if replaces then unescapeWithin (.shell .extended) true [] (line.length + 1) line.toList
    else (line, false)
  if isCut || !endsLine then text else text ++ "\n"

/-- A word in quotes, as a shell would have to be given it; as it is if it needs none. -/
def requoted (word : String) : String :=
  let isPlain (c : Char) : Bool :=
    c.isAlphanum || c == '_' || c == '-' || c == '.' || c == '/' || c == ':' || c == ',' || c == '+' ||
      c == '@' || c == '%' || c == '='
  if word.isEmpty then "''"
  else if word.all isPlain then word
  else if word.contains '\'' && !(word.any fun c => c == '"' || c == '$' || c == '\x60' || c == '\\')
  then "\"" ++ word ++ "\""
  else "'" ++ "'\\''".intercalate (word.splitOn "'") ++ "'"

/-- What is wrong with a format or with a word for it. -/
inductive PrintFault
  | notNumeric (word : String)
  | notWholly (word : String)
  | outOfRange (word : String)
  /-- Characters behind one that stands for its number. -/
  | surplus (characters : String)
  | noConversion (directive : String)
  | badDirective (directive : String)
  /-- Words that the format has no use for. -/
  | excess (word : String)
deriving DecidableEq, Repr

/-- The wording that a shell uses for a fault. -/
def PrintFault.shellMessage : PrintFault → String
  | .notNumeric word => word ++ ": expected numeric value"
  | .notWholly word => word ++ ": not completely converted"
  | .outOfRange word => word ++ ": Numerical result out of range"
  | .surplus characters => characters
  | .noConversion _ => "missing format character"
  | .badDirective directive => directive ++ ": invalid directive"
  | .excess word => word

/-- The wording that the tool uses for a fault. -/
def PrintFault.toolMessage : PrintFault → String
  | .notNumeric word => "'" ++ word ++ "': expected a numeric value"
  | .notWholly word => "'" ++ word ++ "': value not completely converted"
  | .outOfRange word => "'" ++ word ++ "': Numerical result out of range"
  | .surplus characters =>
    "warning: " ++ characters ++ ": character(s) following character constant have been ignored"
  | .noConversion directive => directive ++ ": invalid conversion specification"
  | .badDirective directive => directive ++ ": invalid conversion specification"
  | .excess word => "warning: ignoring excess arguments, starting with '" ++ word ++ "'"

/-- The wording that the extended dialect uses for a fault. -/
def PrintFault.extendedMessage : PrintFault → String
  | .notNumeric word => word ++ ": invalid number"
  | .notWholly word => word ++ ": invalid number"
  | .outOfRange word => "warning: " ++ word ++ ": Numerical result out of range"
  | .surplus characters => characters
  | .noConversion _ => "\x60%': missing format character"
  | .badDirective directive =>
    "\x60" ++ String.ofList (directive.toList.getLast?.toList) ++ "': invalid format character"
  | .excess word => word

/-- Whether a fault makes the tool fail. -/
def PrintFault.isFatal : PrintFault → Bool
  | .surplus _ => false
  | .excess _ => false
  | _ => true

/-- What printing by a format yields: the text, the faults, and whether the format was broken off. -/
structure Printed where
  text : String := ""
  faults : List PrintFault := []
  isBroken : Bool := false
deriving DecidableEq, Repr

/-- A directive of a format. -/
structure Directive where
  flags : List Char := []
  width : Option Nat := none
  precision : Option Nat := none
  conversion : Char
deriving DecidableEq, Repr

/-- Fills a text up to the width of a directive. -/
def Directive.pad (directive : Directive) (zeros : Bool) (text : String) : String :=
  let missing := directive.width.getD 0 - text.length
  if directive.flags.contains '-' then text ++ String.ofList (List.replicate missing ' ')
  else if zeros && directive.flags.contains '0' then
    let sign := text.toList.takeWhile fun c => c == '-' || c == '+' || c == ' '
    String.ofList (sign ++ List.replicate missing '0' ++ text.toList.drop sign.length)
  else String.ofList (List.replicate missing ' ') ++ text

/-- The sign of a number. -/
def Directive.sign (directive : Directive) (isNegative : Bool) : String :=
  if isNegative then "-"
  else if directive.flags.contains '+' then "+"
  else if directive.flags.contains ' ' then " "
  else ""

/-- Digits with zeros before them up to the precision of a directive. -/
def Directive.digits (directive : Directive) (base : Nat) (n : Nat) : String :=
  let digits := Nat.toDigits base n
  String.ofList (List.replicate (directive.precision.getD 1 - digits.length) '0' ++ digits)

/-- The words that a format takes, and the faults of those that were taken. -/
structure Supply where
  words : List String
  faults : List PrintFault := []

/-- Takes a word. -/
def Supply.word (supply : Supply) : String × Supply :=
  match supply.words with
  | [] => ("", supply)
  | word :: rest => (word, { supply with words := rest })

/-- The whole number at the start of a word in the notation of constants, and what follows; nothing
if there is none. -/
def leadingInteger? (word : List Char) : Option (Int × List Char) :=
  let text := word.dropWhile fun c => c == ' ' || ('\t' ≤ c && c ≤ '\r')
  let (isNegative, text) := match text with
    | '-' :: rest => (true, rest)
    | '+' :: rest => (false, rest)
    | text => (false, text)
  let inBase (base : Nat) (text : List Char) : Nat × List Char :=
    let digits := text.takeWhile fun c => (Arithmetic.digit? c).any (· < base)
    ((Arithmetic.inBase? base digits).getD 0, text.drop digits.length)
  let found : Option (Nat × List Char) :=
    match text with
    | '0' :: x :: d :: rest =>
      if (x == 'x' || x == 'X') && (Arithmetic.digit? d).isSome then some (inBase 16 (d :: rest))
      else some (inBase 8 text)
    | '0' :: _ => some (inBase 8 text)
    | c :: _ => if c.isDigit then some (inBase 10 text) else none
    | [] => none
  found.map fun (n, rest) => (if isNegative then -(n : Int) else n, rest)

/-- Takes a word as a number between two bounds. -/
def Supply.number (printer : Printer) (low high : Int) (supply : Supply) : Int × Supply :=
  match supply.words with
  | [] => (0, supply)
  | word :: rest =>
    let supply := { supply with words := rest }
    let complain (fault : PrintFault) : Supply :=
      { supply with faults := supply.faults ++ [fault] }
    let quoted (c : Char) (more : List Char) : Int × Supply :=
      if printer.isTool && !more.isEmpty then (c.toNat, complain (.surplus (String.ofList more)))
      else (c.toNat, supply)
    match word.toList with
    | '\'' :: c :: more => quoted c more
    | '"' :: c :: more => quoted c more
    | characters =>
      match leadingInteger? characters with
      | some (n, after) =>
        let bounded := max low (min high n)
        if bounded != n then (bounded, complain (.outOfRange word))
        else if after.isEmpty then (n, supply)
        else (n, complain (.notWholly word))
      | none =>
        if word.isEmpty && !printer.isTool then (0, supply) else (0, complain (.notNumeric word))

/-- Takes a word as a whole number with a sign. -/
def Supply.signed (printer : Printer) (supply : Supply) : Int × Supply :=
  supply.number printer (-(2 ^ 63)) (2 ^ 63 - 1)

/-- Takes a word as a whole number without a sign. A minus sign counts down from the largest one. -/
def Supply.unsigned (printer : Printer) (supply : Supply) : Nat × Supply :=
  let (n, supply) := supply.number printer (-(2 ^ 64 - 1)) (2 ^ 64 - 1)
  ((n.emod (2 ^ 64)).toNat, supply)

/-- The binary digits that a number keeps in the shell and in the tool. -/
def precisionBits (printer : Printer) : Nat := if printer.knowsHex then 64 else 53

/-- Takes a word as a number of any kind. -/
def Supply.quantity (printer : Printer) (supply : Supply) : Quantity × Supply :=
  match supply.words with
  | [] => (.finite false 0 1, supply)
  | word :: rest =>
    let supply := { supply with words := rest }
    let complain (fault : PrintFault) : Supply :=
      { supply with faults := supply.faults ++ [fault] }
    match word.toList with
    | '\'' :: c :: _ => (.finite false c.toNat 1, supply)
    | '"' :: c :: _ => (.finite false c.toNat 1, supply)
    | characters =>
      match Quantity.read? characters with
      | some (quantity, after) =>
        let rounded := match quantity with
          | .finite isNegative n d =>
            let (n, d) := Quantity.roundedToBits (precisionBits printer) n d
            .finite isNegative n d
          | other => other
        (rounded, if after.isEmpty then supply else complain (.notWholly word))
      | none =>
        (.finite false 0 1,
          if word.isEmpty && !printer.isTool then supply else complain (.notNumeric word))

/-- The text of a quantity under one of the conversions for numbers of any kind. -/
def Directive.quantity (directive : Directive) (quantity : Quantity) : String :=
  let sign := directive.sign quantity.isNegative
  let isUpper := directive.conversion.isUpper
  let raised (text : String) : String := if isUpper then text.map Char.toUpper else text
  let plain (word : String) : String :=
    let blank := { directive with flags := directive.flags.filter (· != '0') }
    raised (blank.pad false (sign ++ word))
  match quantity with
  | .infinite _ => plain "inf"
  | .notANumber _ => plain "nan"
  | .finite _ n d =>
    let places := directive.precision.getD 6
    let keeps := directive.flags.contains '#'
    let digits := match directive.conversion.toLower with
      | 'f' => Quantity.fixed places keeps n d
      | 'e' => Quantity.scientific places keeps n d
      | _ => Quantity.general places keeps n d
    raised (directive.pad true (sign ++ String.ofList digits))

/-- The text of one directive, if there is such a directive, and whether the output ends there. -/
def Directive.print? (printer : Printer) (directive : Directive) (supply : Supply) :
    Option (String × Bool × Supply) :=
  let cut (text : String) : String :=
    match directive.precision with
    | some precision => (text.take precision).toString
    | none => text
  let word := supply.word
  let unsigned (base : Nat) (lead : String) : String × Bool × Supply :=
    let (value, supply) := supply.unsigned printer
    let lead := if directive.flags.contains '#' && value != 0 then lead else ""
    let digits := directive.digits base value
    let missing := directive.width.getD 0 - (lead.length + digits.length)
    -- zeros stand between the mark of the base and the digits
    if directive.precision.isNone && directive.flags.contains '0' && !directive.flags.contains '-' then
      (lead ++ String.ofList (List.replicate missing '0') ++ digits, false, supply)
    else (directive.pad false (lead ++ digits), false, supply)
  match directive.conversion with
  | 's' => some (directive.pad false (cut word.1), false, word.2)
  | 'b' =>
    let (text, isCut) := unescape printer word.1
    some (directive.pad false (cut text), isCut, word.2)
  | 'q' =>
    match printer with
    | .shell .plain => none
    | .shell .extended => some (directive.pad false (cut (Quoting.backslashed word.1)), false, word.2)
    | .tool => some (directive.pad false (cut (requoted word.1)), false, word.2)
  | 'c' =>
    let first := if word.1.isEmpty then String.ofList [Char.ofNat 0] else (word.1.take 1).toString
    some (directive.pad false first, false, word.2)
  | 'd' | 'i' =>
    let (n, supply) := supply.signed printer
    let digits := directive.digits 10 n.natAbs
    some (directive.pad directive.precision.isNone
      (directive.sign (n < 0) ++ digits), false, supply)
  | 'u' => some (unsigned 10 "")
  | 'o' => some (unsigned 8 "0")
  | 'x' => some (unsigned 16 "0x")
  | 'X' =>
    let (text, isCut, supply) := unsigned 16 "0x"
    some (text.map Char.toUpper, isCut, supply)
  | 'f' | 'F' | 'e' | 'E' | 'g' | 'G' =>
    let (quantity, supply) := supply.quantity printer
    some (directive.quantity quantity, false, supply)
  | _ => none

/-- A number in a format, or the next word for a star, and the rest. -/
def amount (printer : Printer) (supply : Supply) (ahead : List Char) :
    Option Int × List Char × Supply :=
  match ahead with
  | '*' :: rest =>
    let (n, supply) := supply.signed printer
    (some n, rest, supply)
  | ahead =>
    let digits := ahead.takeWhile Char.isDigit
    ((String.ofList digits).toNat?.map fun n => (n : Int), ahead.drop digits.length, supply)

/-- The directive after a percent sign, without the percent sign, and the rest. A negative width
means the other side, a negative precision none. -/
def directive? (printer : Printer) (supply : Supply) (ahead : List Char) :
    Option (Directive × List Char × Supply) :=
  let isFlag (c : Char) : Bool := c == '#' || c == '-' || c == '+' || c == ' ' || c == '0'
  let flags := ahead.takeWhile isFlag
  let (width, ahead, supply) := amount printer supply (ahead.drop flags.length)
  let (precision, ahead, supply) := match ahead with
    | '.' :: rest =>
      let (n, rest, supply) := amount printer supply rest
      (if n.any (· < 0) then none else some (n.getD 0).toNat, rest, supply)
    | ahead => (none, ahead, supply)
  let flags := if width.any (· < 0) then '-' :: flags else flags
  let ahead := if printer.knowsHex then
      ahead.dropWhile fun c => c == 'l' || c == 'h' || c == 'L' || c == 'j' || c == 't' || c == 'z'
    else ahead
  match ahead with
  | conversion :: rest =>
    some ({ flags, width := width.map Int.natAbs, precision, conversion }, rest, supply)
  | [] => none

/-- Goes through a format once. `fuel` is more than its length. -/
def once (printer : Printer) (text : String) (supply : Supply) : (fuel : Nat) → List Char → Printed × Supply
  | 0, _ => ({ text }, supply)
  | _, [] => ({ text }, supply)
  | fuel + 1, '\\' :: rest =>
    let (c, rest) := escape printer rest
    once printer (text.push c) supply fuel rest
  | fuel + 1, '%' :: '%' :: rest => once printer (text.push '%') supply fuel rest
  | fuel + 1, '%' :: rest =>
    match directive? printer supply rest with
    | none =>
      ({ text, faults := [.noConversion ("%" ++ String.ofList rest)], isBroken := true }, supply)
    | some (directive, after, supply) =>
      match directive.print? printer supply with
      | none =>
        let written := String.ofList (rest.take (rest.length - after.length))
        ({ text, faults := [.badDirective ("%" ++ written)], isBroken := true }, supply)
      | some (more, isCut, supply) =>
        if isCut then ({ text := text ++ more, isBroken := true }, supply)
        else once printer (text ++ more) supply fuel after
  | fuel + 1, c :: rest => once printer (text.push c) supply fuel rest

/-- Goes through a format as often as there are words for it. -/
def repeated (printer : Printer) (format : List Char) (before : String) (supply : Supply) : (fuel : Nat) → Printed
  | 0 => { text := before, faults := supply.faults }
  | fuel + 1 =>
    let (printed, after) := once printer before supply (format.length + 1) format
    let faults := after.faults ++ printed.faults
    if printed.isBroken || after.words.isEmpty then { printed with faults }
    else if after.words.length = supply.words.length then
      { printed with faults := faults ++ [.excess (after.words.headD "")] }
    else repeated printer format printed.text after fuel

/-- What `printf` prints for a format and words. -/
def formatted (printer : Printer) (format : String) (words : List String) : Printed :=
  repeated printer format.toList "" { words } (words.length + 1)

end RunMeter.Shell.Print
