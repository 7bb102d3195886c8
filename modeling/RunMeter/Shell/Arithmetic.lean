import RunMeter.Number.Power
import RunMeter.Shell.Script

/-!
# Arithmetic

Expressions over whole numbers of 64 bits, with the operators and ranks of the usual notation. A
variable stands for the number it holds, or for zero if it has no value; an assignment is carried
along and reported with the value. The branch of a condition that is not taken is read without being
evaluated.

The extended dialect has powers, steps up and down, rows of expressions, any base up to 64, elements of
lists, and variables that hold expressions.
-/

set_option autoImplicit false

namespace RunMeter.Shell.Arithmetic

/-- A number brought into the range of 64 bits. -/
def wrap (n : Int) : Int := Int.bmod n (2 ^ 64)

/-- Why an expression has no value. -/
inductive Fault
  /-- An operand is missing where so many tokens are left. -/
  | missingPrimary (left : Nat)
  | missingEnd (left : Nat)
  | missingClose (left : Nat)
  | missingColon (left : Nat)
  | divisionByZero (left : Nat)
  | notNumber (text : String)
  | badDigit (text : String)
  | negativePower (left : Nat)
  | noTarget (left : Nat)
  /-- A fault in the expression that a variable holds. -/
  | inValue (text : String) (fault : Fault)
deriving DecidableEq, Repr

/-- The wording of a fault in an expression. -/
def Fault.message (expression : String) : Fault → String
  | .missingPrimary _ => "arithmetic expression: expecting primary: \"" ++ expression ++ "\""
  | .missingEnd _ | .badDigit _ | .negativePower _ | .noTarget _ | .inValue _ _ =>
    "arithmetic expression: expecting EOF: \"" ++ expression ++ "\""
  | .missingClose _ => "arithmetic expression: expecting ')': \"" ++ expression ++ "\""
  | .missingColon _ => "arithmetic expression: expecting ':': \"" ++ expression ++ "\""
  | .divisionByZero _ => "arithmetic expression: division by zero: \"" ++ expression ++ "\""
  | .notNumber text => "Illegal number: " ++ text

/-- The value of a digit in bases up to sixteen. -/
def digit? (c : Char) : Option Nat :=
  if c.isDigit then some (c.toNat - 48)
  else if 'a' ≤ c ∧ c ≤ 'f' then some (c.toNat - 87)
  else if 'A' ≤ c ∧ c ≤ 'F' then some (c.toNat - 55)
  else none

/-- The number that digits in a base make, if they all are digits of it. -/
def inBase? (base : Nat) (digits : List Char) : Option Nat :=
  if digits.isEmpty then none
  else
    digits.foldlM
      (fun value c => do
        let digit ← digit? c
        if digit < base then some (value * base + digit) else none)
      0

/-- A constant: decimal, octal after a zero, hexadecimal after `0x`. -/
def constant? : List Char → Option Nat
  | '0' :: 'x' :: digits => inBase? 16 digits
  | '0' :: 'X' :: digits => inBase? 16 digits
  | '0' :: c :: digits => inBase? 8 (c :: digits)
  | digits => inBase? 10 digits

/-- The largest number there is; larger constants stand for it. -/
def largest : Nat := 2 ^ 63 - 1

/-- The number that a text holds, with blanks around it and a sign before it. -/
def number? (text : String) : Option Int :=
  let isSpace (c : Char) : Bool := c == ' ' || ('\t' ≤ c && c ≤ '\r')
  let text := text.toList.dropWhile isSpace
  let text := (text.reverse.dropWhile isSpace).reverse
  match text with
  | '-' :: digits => (constant? digits).map fun n => -(min n (largest + 1) : Nat)
  | '+' :: digits => (constant? digits).map fun n => (min n largest : Nat)
  | digits => (constant? digits).map fun n => (min n largest : Nat)

/-- A token of an expression. -/
inductive Token
  | number (value : Int)
  | name (text : String)
  | operator (text : String)
deriving DecidableEq, Repr

/-- The operators, longer ones first. -/
def operators (dialect : Dialect) : List String :=
  (match dialect with
    | .plain => []
    | .extended => ["**", "++", "--", ","]) ++
    ["<<=", ">>=", "&&", "||", "==", "!=", "<=", ">=", "<<", ">>", "+=", "-=", "*=", "/=", "%=", "&=",
      "|=", "^=", "+", "-", "*", "/", "%", "<", ">", "=", "!", "~", "&", "|", "^", "?", ":", "(", ")"]

/-- The value of a digit in bases up to 64. Both cases mean the same in bases up to 36. -/
def wideDigit? (base : Nat) (c : Char) : Option Nat :=
  let n := if c.isDigit then c.toNat - 48
    else if c.isLower then c.toNat - 87
    else if c.isUpper then (if base ≤ 36 then c.toNat - 55 else c.toNat - 29)
    else if c == '@' then 62
    else if c == '_' then 63
    else 64
  if n < base then some n else none

/-- A constant with its base in front of it. -/
def basedConstant? (word : List Char) : Option Nat :=
  let base := word.takeWhile Char.isDigit
  match word.drop base.length with
  | '#' :: digits => do
    let base ← inBase? 10 base
    if base < 2 || 64 < base || digits.isEmpty then none
    else
      digits.foldlM
        (fun value c => do
          let digit ← wideDigit? base c
          some (value * base + digit))
        0
  | _ => none

/-- The text up to the bracket that closes the one before it, and what follows that bracket. -/
def bracketed? (depth : Nat) (done : List Char) : List Char → Option (List Char × List Char)
  | [] => none
  | ']' :: rest =>
    if depth = 0 then some (done.reverse, rest) else bracketed? (depth - 1) (']' :: done) rest
  | '[' :: rest => bracketed? (depth + 1) ('[' :: done) rest
  | c :: rest => bracketed? depth (c :: done) rest

/-- Cuts off a token, at which a text begins. A character that is no operator becomes one that nothing
accepts. -/
def token (dialect : Dialect) (c : Char) (rest : List Char) : Except Fault (Token × List Char) :=
  let isExtended := dialect == .extended
  if c.isDigit then
    let word := (c :: rest).takeWhile fun d =>
      d.isAlphanum || d == '_' || (isExtended && (d == '#' || d == '@'))
    let after := (c :: rest).drop word.length
    match constant? word, isExtended && word.contains '#' with
    | _, true =>
      match basedConstant? word with
      | some n => .ok (.number (wrap n), after)
      | none => .error (.badDigit (String.ofList word))
    | some n, false => .ok (.number (if isExtended then wrap n else (min n largest : Nat)), after)
    | none, false => .error (if isExtended then .badDigit (String.ofList word) else .missingEnd 0)
  else if c.isAlpha || c == '_' then
    let word := (c :: rest).takeWhile fun d => d.isAlphanum || d == '_'
    let after := (c :: rest).drop word.length
    match isExtended, after with
    | true, '[' :: inner =>
      match bracketed? 0 [] inner with
      | some (subscript, after) =>
        .ok (.name (String.ofList (word ++ '[' :: subscript ++ [']'])), after)
      | none => .ok (.name (String.ofList word), after)
    | _, _ => .ok (.name (String.ofList word), after)
  else
    match (operators dialect).find? fun operator => operator.toList.isPrefixOf (c :: rest) with
    | some operator => .ok (.operator operator, (c :: rest).drop operator.length)
    | none => .ok (.operator (String.ofList [c]), rest)

/-- Splits an expression into tokens. `fuel` is more than its length. -/
def tokens (dialect : Dialect) : (fuel : Nat) → List Char → Except Fault (List Token)
  | 0, _ => .ok []
  | _, [] => .ok []
  | fuel + 1, c :: rest =>
    if c == ' ' || c == '\t' || c == '\n' then tokens dialect fuel rest
    else do
      let (token, after) ← token dialect c rest
      let more ← tokens dialect fuel after
      .ok (token :: more)

/-- What is left of an expression before each of its tokens. `fuel` is more than its length. -/
def ends : (fuel : Nat) → List Char → List String
  | 0, _ => []
  | _, [] => []
  | fuel + 1, c :: rest =>
    if c == ' ' || c == '\t' || c == '\n' then ends fuel rest
    else
      match token .extended c rest with
      | .ok (_, after) => String.ofList (c :: rest) :: ends fuel after
      | .error _ => [String.ofList (c :: rest)]

/-- The wording of a fault in an expression of the extended dialect. -/
def Fault.extendedMessage (expression : String) : Fault → String
  | .missingPrimary left => place expression "syntax error: operand expected" left
  | .missingEnd left =>
    let text := if isOdd (rest expression left) then "syntax error: invalid arithmetic operator"
      else "syntax error in expression"
    place expression text left
  | .missingClose left => place expression "missing \x60)'" left
  | .missingColon left => place expression "\x60:' expected for conditional expression" left
  | .divisionByZero left => place expression "division by 0" left
  | .negativePower left => place expression "exponent less than 0" left
  | .noTarget left => place expression "attempted assignment to non-variable" left
  | .badDigit text | .notNumber text =>
    expression ++ ": value too great for base (error token is \"" ++ text ++ "\")"
  | .inValue text fault => fault.extendedMessage text
where
  /-- What is left of the expression before so many of its tokens. -/
  rest (expression : String) (left : Nat) : String :=
    let rests := ends (expression.length + 1) expression.toList
    rests.getD (rests.length - max 1 left) ""
  /-- Whether a text begins with a character that is part of no token. -/
  isOdd (text : String) : Bool :=
    let c := text.toList.headD ' '
    !(c.isAlphanum || c == '_' || (operators .extended).any fun operator => operator.startsWith
      (String.ofList [c]))
  /-- What is wrong, and what is left of the expression there. -/
  place (expression text : String) (left : Nat) : String :=
    expression ++ ": " ++ text ++ " (error token is \"" ++ rest expression left ++ "\")"

/-- What reading an expression carries along: the tokens ahead and the assignments so far. -/
structure Progress where
  ahead : List Token
  assigned : List (String × Int) := []

/-- Where the value of a variable comes from. -/
abbrev Lookup := String → Option String

/-- How expressions are read: the dialect, and where the values of variables come from. -/
structure Rules where
  dialect : Dialect := .plain
  lookup : Lookup

/-- Whether expressions are written in the extended dialect. -/
def Rules.isExtended (rules : Rules) : Bool := rules.dialect == .extended

/-- The number that a variable holds. -/
def variableValue (rules : Rules) (assigned : List (String × Int)) (name : String) :
    Except Fault Int :=
  match assigned.lookup name with
  | some value => .ok value
  | none =>
    match rules.lookup name with
    | none => .ok 0
    | some "" => .ok 0
    | some text =>
      match number? text with
      | some value => .ok value
      | none => .error (.notNumber text)

/-- The rank of an operator between two operands; higher ranks bind tighter. -/
def rank? (operator : String) : Option Nat :=
  match operator with
  | "||" => some 1
  | "&&" => some 2
  | "|" => some 3
  | "^" => some 4
  | "&" => some 5
  | "==" | "!=" => some 6
  | "<" | ">" | "<=" | ">=" => some 7
  | "<<" | ">>" => some 8
  | "+" | "-" => some 9
  | "*" | "/" | "%" => some 10
  | "**" => some 11
  | _ => none

/-- The truth of a comparison as a number. -/
def truth (b : Bool) : Int := if b then 1 else 0

/-- The words of 64 bits of an operation on bits. -/
def onBits (f : Nat → Nat → Nat) (a b : Int) : Int :=
  wrap (f (a.emod (2 ^ 64)).toNat (b.emod (2 ^ 64)).toNat)

/-- A power, brought into range at every step. -/
def power (base : Int) : (exponent : Nat) → Int
  | 0 => 1
  | exponent + 1 => wrap (power base exponent * base)

/-- Applies an operator to two numbers. `left` tokens were left before the second one. -/
def apply (left : Nat) (operator : String) (a b : Int) : Except Fault Int :=
  match operator with
  | "||" => .ok (truth (a != 0 || b != 0))
  | "&&" => .ok (truth (a != 0 && b != 0))
  | "|" => .ok (onBits (· ||| ·) a b)
  | "^" => .ok (onBits (· ^^^ ·) a b)
  | "&" => .ok (onBits (· &&& ·) a b)
  | "==" => .ok (truth (a == b))
  | "!=" => .ok (truth (a != b))
  | "<" => .ok (truth (a < b))
  | ">" => .ok (truth (a > b))
  | "<=" => .ok (truth (a ≤ b))
  | ">=" => .ok (truth (a ≥ b))
  | "<<" => .ok (wrap (a * 2 ^ (b.emod 64).toNat))
  | ">>" => .ok (a.fdiv (2 ^ (b.emod 64).toNat))
  | "+" => .ok (wrap (a + b))
  | "-" => .ok (wrap (a - b))
  | "*" => .ok (wrap (a * b))
  | "/" => if b = 0 then .error (.divisionByZero left) else .ok (wrap (a.tdiv b))
  | "%" => if b = 0 then .error (.divisionByZero left) else .ok (wrap (a.tmod b))
  | "**" => if b < 0 then .error (.negativePower left) else .ok (power a (min b.toNat 4096))
  | _ => .error (.missingEnd left)

mutual

/-- The number that a variable holds; in the extended dialect its value may be an expression. -/
def held (rules : Rules) (fuel : Nat) (assigned : List (String × Int)) (name : String) :
    Except Fault Int := do
  match fuel with
  | 0 => .error (.missingPrimary 0)
  | fuel + 1 =>
    match variableValue rules assigned name with
    | .ok value => .ok value
    | .error fault =>
      if !rules.isExtended then .error fault
      else
        let text := (rules.lookup name).getD ""
        match tokens rules.dialect (text.length + 1) text.toList with
        | .error fault => .error (.inValue text fault)
        | .ok row =>
          match series rules fuel true { ahead := row, assigned } with
          | .ok (value, after) =>
            if after.ahead.isEmpty then .ok value
            else .error (.inValue text (.missingEnd after.ahead.length))
          | .error (.inValue text fault) => .error (.inValue text fault)
          | .error fault => .error (.inValue text fault)

/-- Reads and evaluates expressions between commas, the last of which gives the value. -/
def series (rules : Rules) (fuel : Nat) (isLive : Bool) (here : Progress) :
    Except Fault (Int × Progress) := do
  match fuel with
  | 0 => .error (.missingPrimary 0)
  | fuel + 1 =>
    let (value, after) ← expression rules fuel isLive here
    match after.ahead with
    | .operator "," :: rest =>
      if rules.isExtended then series rules fuel isLive { after with ahead := rest }
      else .ok (value, after)
    | _ => .ok (value, after)

/-- Reads and evaluates an assignment or a condition. Nothing is evaluated unless `isLive`. -/
def expression (rules : Rules) (fuel : Nat) (isLive : Bool) (here : Progress) :
    Except Fault (Int × Progress) := do
  match fuel with
  | 0 => .error (.missingPrimary 0)
  | fuel + 1 =>
    match here.ahead with
    | .name name :: .operator operator :: rest =>
      let isAssignment := operator == "=" ||
        (operator.endsWith "=" && (rank? (operator.dropEnd 1).toString).isSome &&
          operator != "==" && operator != "<=" && operator != ">=" && operator != "!=")
      if isAssignment then do
        let (value, after) ← expression rules fuel isLive { here with ahead := rest }
        if isLive then
          let value ←
            if operator == "=" then pure value
            else do
              let before ← held rules fuel after.assigned name
              apply rest.length (operator.dropEnd 1).toString before value
          .ok (value, { after with assigned := (name, value) :: after.assigned })
        else .ok (0, after)
      else condition rules fuel isLive here
    | _ => condition rules fuel isLive here

/-- Reads and evaluates a condition with its branches. -/
def condition (rules : Rules) (fuel : Nat) (isLive : Bool) (here : Progress) :
    Except Fault (Int × Progress) := do
  match fuel with
  | 0 => .error (.missingPrimary 0)
  | fuel + 1 =>
    let (test, after) ← ranked rules fuel isLive 1 here
    match after.ahead with
    | .operator "?" :: rest => do
      let (first, after) ← expression rules fuel (isLive && test != 0) { after with ahead := rest }
      match after.ahead with
      | .operator ":" :: rest => do
        let (second, after) ←
          condition rules fuel (isLive && test == 0) { after with ahead := rest }
        .ok (if test != 0 then first else second, after)
      | rest => .error (.missingColon rest.length)
    | .operator "=" :: rest =>
      if rules.isExtended then .error (.noTarget (rest.length + 1)) else .ok (test, after)
    | _ => .ok (test, after)

/-- Reads and evaluates operators of at least one rank. -/
def ranked (rules : Rules) (fuel : Nat) (isLive : Bool) (rank : Nat) (here : Progress) :
    Except Fault (Int × Progress) := do
  match fuel with
  | 0 => .error (.missingPrimary 0)
  | fuel + 1 =>
    let (first, after) ← unary rules fuel isLive here
    following rules fuel isLive rank first after

/-- Reads and evaluates the operators of at least one rank after an operand. Powers are taken from the
right. -/
def following (rules : Rules) (fuel : Nat) (isLive : Bool) (rank : Nat) (first : Int)
    (here : Progress) : Except Fault (Int × Progress) := do
  match fuel with
  | 0 => .error (.missingPrimary 0)
  | fuel + 1 =>
    match here.ahead with
    | .operator operator :: rest =>
      match rank? operator with
      | none => .ok (first, here)
      | some own =>
        if own < rank then .ok (first, here)
        else do
          let isLiveAfter := isLive &&
            (if operator == "&&" then first != 0 else if operator == "||" then first == 0 else true)
          let next := if operator == "**" then own else own + 1
          let (second, after) ←
            ranked rules fuel isLiveAfter next { here with ahead := rest }
          let value ← if isLive then apply rest.length operator first second else pure 0
          following rules fuel isLive rank value after
    | _ => .ok (first, here)

/-- Reads and evaluates an operand with the signs before it. -/
def unary (rules : Rules) (fuel : Nat) (isLive : Bool) (here : Progress) :
    Except Fault (Int × Progress) := do
  match fuel with
  | 0 => .error (.missingPrimary 0)
  | fuel + 1 =>
    let stepped (name : String) (by' : Int) (givesOld : Bool) (rest : List Token) :
        Except Fault (Int × Progress) := do
      if isLive then
        let before ← held rules fuel here.assigned name
        let value := wrap (before + by')
        .ok (if givesOld then before else value,
          { here with ahead := rest, assigned := (name, value) :: here.assigned })
      else .ok (0, { here with ahead := rest })
    match here.ahead with
    | .number value :: rest => .ok (value, { here with ahead := rest })
    | .name name :: .operator "++" :: rest => stepped name 1 true rest
    | .name name :: .operator "--" :: rest => stepped name (-1) true rest
    | .operator "++" :: .name name :: rest => stepped name 1 false rest
    | .operator "--" :: .name name :: rest => stepped name (-1) false rest
    | .name name :: rest => do
      let value ← if isLive then held rules fuel here.assigned name else pure 0
      .ok (value, { here with ahead := rest })
    | .operator "(" :: rest => do
      let (value, after) ← series rules fuel isLive { here with ahead := rest }
      match after.ahead with
      | .operator ")" :: rest => .ok (value, { after with ahead := rest })
      | rest => .error (.missingClose rest.length)
    | .operator "-" :: rest => do
      let (value, after) ← unary rules fuel isLive { here with ahead := rest }
      .ok (wrap (-value), after)
    | .operator "+" :: rest => unary rules fuel isLive { here with ahead := rest }
    | .operator "!" :: rest => do
      let (value, after) ← unary rules fuel isLive { here with ahead := rest }
      .ok (truth (value == 0), after)
    | .operator "~" :: rest => do
      let (value, after) ← unary rules fuel isLive { here with ahead := rest }
      .ok (wrap (-value - 1), after)
    | rest => .error (.missingPrimary rest.length)

end

/-- The value of an expression and the assignments it makes, the last one first. In the extended dialect
nothing counts as zero. -/
def evaluate (rules : Rules) (text : String) : Except Fault (Int × List (String × Int)) := do
  let row ← tokens rules.dialect (text.length + 1) text.toList
  if row.isEmpty then
    if rules.isExtended then .ok (0, []) else .error (.missingPrimary 0)
  else
    let (value, after) ← series rules (16 * row.length + 256) true { ahead := row }
    if after.ahead.isEmpty then .ok (value, after.assigned)
    else .error (.missingEnd after.ahead.length)

end RunMeter.Shell.Arithmetic
