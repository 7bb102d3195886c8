import RunMeter.Shell.Print
import RunMeter.Shell.Regex.Reader
import RunMeter.Shell.Tool.Basic

/-!
# Tools on numbers

Evaluating an expression, counting from one number to another, and taking numbers apart into primes.
-/

set_option autoImplicit false

namespace RunMeter.Shell.Tool

/-! ## Expressions -/

/-- Why an expression has no value. -/
inductive ExprFault
  | missingOperand
  | unexpected (word : String)
  | missingAfter (word : String)
  | missingClose (word : String)
  | wrongClose (word : String)
  | unexpectedClose
  | notInteger
  | divisionByZero
  | badPattern (fault : RegexFault)
deriving DecidableEq, Repr

/-- The wording of a fault. -/
def ExprFault.message : ExprFault → String
  | .missingOperand => "missing operand"
  | .unexpected word => "syntax error: unexpected argument '" ++ word ++ "'"
  | .missingAfter word => "syntax error: missing argument after '" ++ word ++ "'"
  | .missingClose word => "syntax error: expecting ')' after '" ++ word ++ "'"
  | .wrongClose word => "syntax error: expecting ')' instead of '" ++ word ++ "'"
  | .unexpectedClose => "syntax error: unexpected ')'"
  | .notInteger => "non-integer argument"
  | .divisionByZero => "division by zero"
  | .badPattern fault => fault.message

/-- The whole number that a word is. -/
def exprInteger? (word : String) : Option Int :=
  let (isNegative, digits) := match word.toList with
    | '-' :: rest => (true, rest)
    | digits => (false, digits)
  if digits.isEmpty || !digits.all Char.isDigit then none
  else
    let n : Int := Decimal.value digits
    some (if isNegative then -n else n)

/-- Whether a value counts as nothing: it is empty or zero. -/
def isNothing (value : String) : Bool :=
  let digits := match value.toList with
    | '-' :: rest => rest
    | digits => digits
  value.isEmpty || (!digits.isEmpty && digits.all (· == '0'))

/-- The truth of a comparison as a value. -/
def truthText (b : Bool) : String := if b then "1" else "0"

/-- What a pattern finds at the start of a text: the first group, or the count of characters. -/
def exprMatch (text pattern : String) : Except ExprFault String :=
  match Regex.read {} pattern with
  | .error fault => .error (.badPattern fault)
  | .ok regex =>
    let characters := text.toList.toArray
    let anchored := Regex.seq (.border .textStart) regex
    let hasGroup := (pattern.splitOn "\\(").length > 1
    match anchored.matchAt anchored.refersBack characters 0 with
    | none => .ok (if hasGroup then "" else "0")
    | some found =>
      if hasGroup then
        match (anchored.search? characters 0).bind fun found => found.group? 1 with
        | some (start, stop) => .ok (String.ofList (characters.extract start stop).toList)
        | none => .ok ""
      else .ok (toString found.stop)

/-- Applies an operator to two values. -/
def exprApply (operator a b : String) : Except ExprFault String :=
  let onNumbers (f : Int → Int → Int) : Except ExprFault String :=
    match exprInteger? a, exprInteger? b with
    | some x, some y => .ok (toString (f x y))
    | _, _ => .error .notInteger
  let compared (test : Ordering → Bool) : Except ExprFault String :=
    match exprInteger? a, exprInteger? b with
    | some x, some y => .ok (truthText (test (compare x y)))
    | _, _ => .ok (truthText (test (compare a b)))
  match operator with
  | "<" => compared (· == .lt)
  | "<=" => compared (· != .gt)
  | "=" | "==" => compared (· == .eq)
  | "!=" => compared (· != .eq)
  | ">=" => compared (· != .lt)
  | ">" => compared (· == .gt)
  | "+" => onNumbers (· + ·)
  | "-" => onNumbers (· - ·)
  | "*" => onNumbers (· * ·)
  | "/" | "%" =>
    match exprInteger? a, exprInteger? b with
    | some x, some y =>
      if y = 0 then .error .divisionByZero
      else .ok (toString (if operator == "/" then x.tdiv y else x.tmod y))
    | _, _ => .error .notInteger
  | _ => exprMatch a b

/-- The operators of each rank, those that bind loosest first. -/
def exprRanks : List (List String) :=
  [["|"], ["&"], ["<", "<=", "=", "==", "!=", ">=", ">"], ["+", "-"], ["*", "/", "%"], [":"]]

/-- A position in an expression: the word before, and the words ahead. -/
structure ExprCursor where
  before : String := ""
  ahead : List String

/-- Moves over one word. -/
def ExprCursor.next (cursor : ExprCursor) : ExprCursor :=
  match cursor.ahead with
  | word :: rest => { before := word, ahead := rest }
  | [] => cursor

mutual

/-- Reads and evaluates operands joined by operators of a rank. Nothing is evaluated unless
`isLive`. -/
def exprRanked (fuel : Nat) (ranks : List (List String)) (isLive : Bool) (cursor : ExprCursor) :
    Except ExprFault (String × ExprCursor) := do
  match fuel with
  | 0 => .error .missingOperand
  | fuel + 1 =>
    match ranks with
    | [] => exprPrimary fuel isLive cursor
    | operators :: higher =>
      let (first, cursor) ← exprRanked fuel higher isLive cursor
      exprFollowing fuel operators higher isLive first cursor

/-- Reads and evaluates the operators of a rank behind an operand. -/
def exprFollowing (fuel : Nat) (operators : List String) (higher : List (List String))
    (isLive : Bool) (first : String) (cursor : ExprCursor) :
    Except ExprFault (String × ExprCursor) := do
  match fuel with
  | 0 => .error .missingOperand
  | fuel + 1 =>
    match cursor.ahead with
    | [] => .ok (first, cursor)
    | operator :: _ =>
      if operators.contains operator then do
        let isLiveAfter := isLive &&
          (if operator == "|" then isNothing first
          else if operator == "&" then !isNothing first
          else true)
        let (second, cursor) ← exprRanked fuel higher isLiveAfter cursor.next
        let value ←
          if !isLive then pure ""
          else if operator == "|" then
            pure (if !isNothing first then first else if !isNothing second then second else "0")
          else if operator == "&" then
            pure (if isNothing first || isNothing second then "0" else first)
          else exprApply operator first second
        exprFollowing fuel operators higher isLive value cursor
      else .ok (first, cursor)

/-- Reads and evaluates one operand. -/
def exprPrimary (fuel : Nat) (isLive : Bool) (cursor : ExprCursor) :
    Except ExprFault (String × ExprCursor) := do
  match fuel with
  | 0 => .error .missingOperand
  | fuel + 1 =>
    let operand (cursor : ExprCursor) : Except ExprFault (String × ExprCursor) :=
      exprPrimary fuel isLive cursor
    match cursor.ahead with
    | [] => .error (.missingAfter cursor.before)
    | "+" :: rest =>
      match rest with
      | word :: _ => .ok (word, cursor.next.next)
      | [] => .error (.missingAfter "+")
    | "length" :: _ => do
      let (text, cursor) ← operand cursor.next
      .ok (toString text.length, cursor)
    | "match" :: _ => do
      let (text, cursor) ← operand cursor.next
      let (pattern, cursor) ← operand cursor
      let value ← if isLive then exprMatch text pattern else pure ""
      .ok (value, cursor)
    | "index" :: _ => do
      let (text, cursor) ← operand cursor.next
      let (characters, cursor) ← operand cursor
      let index := text.toList.findIdx fun c => characters.contains c
      .ok (toString (if index < text.length then index + 1 else 0), cursor)
    | "substr" :: _ => do
      let (text, cursor) ← operand cursor.next
      let (start, cursor) ← operand cursor
      let (length, cursor) ← operand cursor
      let value := match exprInteger? start, exprInteger? length with
        | some s, some l =>
          if s ≤ 0 || l ≤ 0 then ""
          else String.ofList ((text.toList.drop (s.toNat - 1)).take l.toNat)
        | _, _ => ""
      .ok (value, cursor)
    | "(" :: _ => do
      let (value, cursor) ← exprRanked fuel exprRanks isLive cursor.next
      match cursor.ahead with
      | ")" :: _ => .ok (value, cursor.next)
      | word :: _ => .error (.wrongClose word)
      | [] => .error (.missingClose cursor.before)
    | ")" :: _ => .error .unexpectedClose
    | word :: _ => .ok (word, cursor.next)

end

/-- Evaluates an expression. -/
def expr (args : List String) (run : Run) : Run :=
  let words := match args with
    | "--" :: rest => rest
    | words => words
  if words.isEmpty then misuseWith 2 run ExprFault.missingOperand.message
  else
    let result : Except ExprFault String := do
      let (value, cursor) ← exprRanked (32 * words.length + 32) exprRanks true { ahead := words }
      match cursor.ahead with
      | [] => .ok value
      | word :: _ => .error (.unexpected word)
    match result with
    | .ok value => (run.print (value ++ "\n")).ended (if isNothing value then 1 else 0)
    | .error fault => failWith 2 run fault.message

/-! ## Counting -/

/-- A decimal number with a count of places, and how wide it was written. -/
structure SeqNumber where
  value : Int
  places : Nat
  width : Nat
deriving DecidableEq, Repr

/-- Reads a whole number in hexadecimal digits. -/
def hexadecimal? : List Char → Option Nat
  | '0' :: x :: c :: rest =>
    if (x == 'x' || x == 'X') && (c :: rest).all fun c => (Quantity.hexDigit? c).isSome then
      some ((c :: rest).foldl (fun n c => n * 16 + (Quantity.hexDigit? c).getD 0) 0)
    else none
  | _ => none

/-- Whether a number stands for one beyond all others. -/
def isEndlessNumber (text : String) : Bool :=
  ["inf", "infinity", "+inf", "+infinity"].contains (text.map Char.toLower)

/-- Whether a text stands for no number. -/
def isNoNumber (text : String) : Bool :=
  ["nan", "+nan", "-nan"].contains (text.map Char.toLower)

/-- Reads a number for `seq`. -/
def seqNumber? (text : String) : Option SeqNumber :=
  let characters := text.toList.dropWhile fun c => c == ' ' || c == '+'
  let (isNegative, unsigned) := match characters with
    | '-' :: rest => (true, rest)
    | rest => (false, rest)
  match hexadecimal? unsigned, Quantity.digitsAround? 10 Quantity.decimalDigit? unsigned with
  | some n, _ =>
    some { value := if isNegative then -(n : Int) else n, places := 0, width := characters.length }
  | none, none => none
  | none, some (n, places, rest) =>
    let (exponent, rest) := Quantity.exponentBehind 'e' 'E' rest
    if !rest.isEmpty then none
    else
      let n : Int := if isNegative then -(n : Int) else n
      let startsAtPoint := unsigned.head? == some '.'
      let endsAtPoint := places = 0 && unsigned.contains '.'
      let width := (characters.takeWhile fun c => c != 'e' && c != 'E').length +
        (if startsAtPoint then 1 else 0) - (if endsAtPoint then 1 else 0)
      if exponent ≥ 0 then
        let used := min places exponent.toNat
        some
          { value := n * 10 ^ (exponent.toNat - used)
            places := places - used
            width := width + (exponent.toNat - used) }
      else
        some { value := n, places := places + exponent.natAbs, width := width + exponent.natAbs }

/-- A number scaled to a count of places. -/
def SeqNumber.scaled (number : SeqNumber) (places : Nat) : Int :=
  number.value * 10 ^ (places - number.places)

/-- A scaled number as text. -/
def seqText (places : Nat) (n : Int) : String :=
  let digits := String.ofList (Quantity.withPoint places false (Nat.toDigits 10 n.natAbs))
  if n < 0 then "-" ++ digits else digits

/-- A text filled with zeros behind its sign up to a width. -/
def zeroFilled (width : Nat) (text : String) : String :=
  let (sign, digits) := if text.startsWith "-" then ("-", (text.drop 1).toString) else ("", text)
  sign ++ String.ofList (List.replicate (width - text.length) '0') ++ digits

/-- The parts of a format for numbers: what stands before the directive, the directive, and what
stands behind it; or the complaint about it. -/
def seqFormat (format : String) : Except String (String × Print.Directive × String) :=
  let bad (text : String) : Except String (String × Print.Directive × String) :=
    .error ("format '" ++ format ++ "' " ++ text)
  let rec go : (fuel : Nat) → List Char → List Char → Except String (String × Print.Directive × String)
    | 0, _, _ => bad "has no % directive"
    | _, _, [] => bad "has no % directive"
    | fuel + 1, done, '%' :: '%' :: rest => go fuel ('%' :: done) rest
    | _ + 1, done, '%' :: rest =>
      match Print.directive? .tool { words := [] } rest with
      | none => bad "ends in %"
      | some (directive, after, _) =>
        if "efgaEFGA".contains directive.conversion then
          if (String.ofList after).replace "%%" "" |>.contains '%' then
            bad "has too many % directives"
          else
            .ok (String.ofList done.reverse, directive, (String.ofList after).replace "%%" "%")
        else bad ("has unknown %" ++ String.ofList [directive.conversion] ++ " directive")
    | fuel + 1, done, c :: rest => go fuel (c :: done) rest
  go (format.length + 1) [] format.toList

/-- Counts from one number to another. -/
def seq (args : List String) (run : Run) : Run :=
  -- negative numbers are no options
  let isNumber (arg : String) : Bool :=
    match arg.toList with
    | '-' :: c :: _ => c.isDigit || c == '.'
    | _ => false
  let rec options (args : List String) : List String :=
    match args with
    | [] => []
    | arg :: rest =>
      if isNumber arg || !arg.startsWith "-" || arg == "-" then []
      else if arg == "-s" || arg == "-f" || arg == "--separator" || arg == "--format" then
        match rest with
        | value :: more => arg :: value :: options more
        | [] => [arg]
      else if arg == "--" then [arg]
      else arg :: options rest
  let own := options args
  let operands := args.drop own.length
  let table : OptionTable :=
    { short := "f:s:w"
      long := [("format", .required, 'f'), ("separator", .required, 's'),
        ("equal-width", .nothing, 'w')]
      stopsEarly := true }
  withOptions table 1 own run fun given run =>
    let isEndless := operands.getLast?.any isEndlessNumber
    let numbers := operands.map fun text =>
      if isEndlessNumber text then some { value := 1, places := 0, width := 3 } else seqNumber? text
    let separator := (given.value? 's').getD "\n"
    match operands with
    | [] => misuse run "missing operand"
    | _ :: _ :: _ :: fourth :: _ => extraOperand run fourth
    | _ =>
      match (operands.zip numbers).find? fun (_, number) => number.isNone with
      | some (text, _) =>
        misuse run ((if isNoNumber text then "invalid 'not-a-number' argument: '"
          else "invalid floating point argument: '") ++ text ++ "'")
      | none =>
        let one : SeqNumber := { value := 1, places := 0, width := 1 }
        let (first, step, last) := match numbers.filterMap id with
          | [last] => (one, one, last)
          | [first, last] => (first, one, last)
          | [first, step, last] => (first, step, last)
          | _ => (one, one, one)
        if step.value = 0 then
          misuse run ("invalid Zero increment value: '" ++ operands.getD 1 "" ++ "'")
        else if given.has 'f' && given.has 'w' then
          misuse run "format string may not be specified when printing equal width strings"
        else
          match (given.value? 'f').map seqFormat with
          | some (.error text) => fail run text
          | format =>
            let shownPlaces := max first.places step.places
            let places := max shownPlaces last.places
            let a := first.scaled places
            let by' := step.scaled places
            let b := last.scaled places
            let count := if isEndless then Run.endlessLength / 2
              else if (b - a) * by'.sign < 0 then 0 else ((b - a).tdiv by' + 1).toNat
            let shownValue (n : Int) : Int := n.tdiv (10 ^ (places - shownPlaces))
            let width := if given.has 'w' then
                let firstWidth := first.width + (shownPlaces - first.places) +
                  (if first.places = 0 && shownPlaces > 0 then 1 else 0)
                let lastWidth := last.width - last.places + shownPlaces +
                  (if last.places = 0 && shownPlaces > 0 then 1 else 0) -
                  (if last.places > 0 && shownPlaces = 0 then 1 else 0)
                max firstWidth lastWidth
              else 0
            let text (i : Nat) : String :=
              let n := a + by' * i
              match format with
              | some (.ok (before, directive, after)) =>
                before ++ directive.quantity (.finite (n < 0) n.natAbs (10 ^ places)) ++ after
              | _ => zeroFilled width (seqText shownPlaces (shownValue n))
            if count = 0 then run.ended 0
            else
              let run := run.print (separator.intercalate ((List.range count).map text) ++ "\n")
              if isEndless && run.unwritten.isNone then run.exhausting else run.ended 0

/-! ## Primes -/

/-- The prime factors of a number from a divisor on. `fuel` bounds the divisors tried. -/
def primeFactors : (fuel : Nat) → (divisor : Nat) → Nat → List Nat
  | 0, _, n => if n > 1 then [n] else []
  | fuel + 1, divisor, n =>
    if n ≤ 1 then []
    else if n < divisor * divisor then [n]
    else if n % divisor = 0 then divisor :: primeFactors fuel divisor (n / divisor)
    else primeFactors fuel (if divisor = 2 then 3 else divisor + 2) n

/-- How many divisors are tried at most. -/
def maxDivisors : Nat := 2000000

/-- Shows the prime factors of numbers. -/
def factor (args : List String) (run : Run) : Run :=
  let report (run : Run) (word : String) : Run :=
    let digits := if word.startsWith "+" then (word.drop 1).toString else word
    if digits.isEmpty || !digits.all Char.isDigit then
      fail run ("'" ++ word ++ "' is not a valid positive integer")
    else
      let n := Decimal.value digits.toList
      run.print (toString n ++ ":" ++
        String.join ((primeFactors maxDivisors 2 n).map fun p => " " ++ toString p) ++ "\n")
  withOptions { short := "h" } 1 args run fun given run =>
    if given.operands.isEmpty then
      let (text, run) := run.readAll 0
      let words := (text.split fun c => c == ' ' || c == '\n' || c == '\t').toList.filterMap fun piece =>
        if piece.isEmpty then none else some piece.toString
      words.foldl report (run.ended 0)
    else given.operands.foldl report (run.ended 0)

end RunMeter.Shell.Tool
