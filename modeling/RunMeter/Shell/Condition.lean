import RunMeter.Shell.Arithmetic

/-!
# Conditions

The operators with which scripts compare texts and numbers and ask about files. What a row of words
means depends on their number first: three words with an operator between two operands are always a
comparison, whatever the operands look like.
-/

set_option autoImplicit false

namespace RunMeter.Shell.Condition

/-- Why a condition has no outcome. -/
inductive Fault
  | unexpectedOperator (word : String)
  | missingOperand (operator : String)
  | missingClose
  | notNumber (text : String)
  | missingBracket
deriving DecidableEq, Repr

/-- The wording of a fault. -/
def Fault.message : Fault → String
  | .unexpectedOperator word => word ++ ": unexpected operator"
  | .missingOperand operator => operator ++ ": argument expected"
  | .missingClose => "closing paren expected"
  | .notNumber text => "Illegal number: " ++ text
  | .missingBracket => "missing ]"

/-- The operators before one operand. -/
def isUnary (word : String) : Bool :=
  ["-r", "-w", "-x", "-e", "-f", "-d", "-c", "-b", "-p", "-u", "-g", "-k", "-s", "-t", "-z", "-n",
    "-h", "-O", "-G", "-L", "-S"].contains word

/-- The operators between two operands. -/
def isBinary (word : String) : Bool :=
  ["=", "!=", "<", ">", "-eq", "-ne", "-ge", "-gt", "-le", "-lt", "-nt", "-ot",
    "-ef"].contains word

/-- What a condition may ask about names of files: whether one has a property, and whether two stand in
a relation, each named by its operator. -/
structure FileQuestions where
  ofOne : (operator name : String) → Bool
  ofTwo : (first operator second : String) → Bool

/-- A decimal number with a sign and blanks around it. -/
def number (text : String) : Except Fault Int :=
  let isSpace (c : Char) : Bool := c == ' ' || ('\t' ≤ c && c ≤ '\r')
  let trimmed := text.toList.dropWhile isSpace
  let trimmed := (trimmed.reverse.dropWhile isSpace).reverse
  let digits := match trimmed with
    | '-' :: digits => digits
    | '+' :: digits => digits
    | digits => digits
  match Arithmetic.inBase? 10 digits with
  | some n =>
    if n ≤ Arithmetic.largest then .ok (if trimmed.head? == some '-' then -(n : Int) else n)
    else .error (.notNumber text)
  | none => .error (.notNumber text)

/-- Applies an operator to two operands. -/
def compare (questions : FileQuestions) (first operator second : String) : Except Fault Bool :=
  let onNumbers (test : Int → Int → Bool) : Except Fault Bool := do
    .ok (test (← number first) (← number second))
  match operator with
  | "=" => .ok (first == second)
  | "!=" => .ok (first != second)
  | "<" => .ok (decide (first < second))
  | ">" => .ok (decide (second < first))
  | "-eq" => onNumbers (· == ·)
  | "-ne" => onNumbers (· != ·)
  | "-ge" => onNumbers (fun a b => decide (a ≥ b))
  | "-gt" => onNumbers (fun a b => decide (a > b))
  | "-le" => onNumbers (fun a b => decide (a ≤ b))
  | "-lt" => onNumbers (fun a b => decide (a < b))
  | _ => .ok (questions.ofTwo first operator second)

/-- Applies an operator to one operand. -/
def ask (questions : FileQuestions) (operator operand : String) : Bool :=
  match operator with
  | "-z" => operand == ""
  | "-n" => operand != ""
  | "-t" => false
  | _ => questions.ofOne operator operand

/-- Whether an operator before one operand stands at the start of the words. It does not if it must
be an operand itself. -/
def beginsUnary : List String → Bool
  | [] => false
  | [_] => false
  | [operator, _] => isUnary operator
  | operator :: next :: _ => isUnary operator && !isBinary next

mutual

/-- Reads conditions of which one has to hold: their outcome, the last word read, and the rest. -/
def anyOf (questions : FileQuestions) (fuel : Nat) (words : List String) :
    Except Fault (Bool × String × List String) := do
  match fuel with
  | 0 => .ok (false, "", words)
  | fuel + 1 =>
    let (first, last, rest) ← allOf questions fuel words
    match rest with
    | "-o" :: rest => do
      let (second, last, rest) ← anyOf questions fuel rest
      .ok (first || second, last, rest)
    | rest => .ok (first, last, rest)

/-- Reads conditions that all have to hold. -/
def allOf (questions : FileQuestions) (fuel : Nat) (words : List String) :
    Except Fault (Bool × String × List String) := do
  match fuel with
  | 0 => .ok (false, "", words)
  | fuel + 1 =>
    let (first, last, rest) ← single questions fuel words
    match rest with
    | "-a" :: rest => do
      let (second, last, rest) ← allOf questions fuel rest
      .ok (first && second, last, rest)
    | rest => .ok (first, last, rest)

/-- Reads one condition, which may be negated. -/
def single (questions : FileQuestions) (fuel : Nat) (words : List String) :
    Except Fault (Bool × String × List String) := do
  match fuel with
  | 0 => .ok (false, "", words)
  | fuel + 1 =>
    match words with
    | "!" :: next :: rest => do
      let (outcome, last, rest) ← single questions fuel (next :: rest)
      .ok (!outcome, last, rest)
    | ["!"] => .ok (true, "!", [])
    | words => primary questions fuel words

/-- Reads a condition that is not negated. -/
def primary (questions : FileQuestions) (fuel : Nat) (words : List String) :
    Except Fault (Bool × String × List String) := do
  match fuel with
  | 0 => .ok (false, "", words)
  | fuel + 1 =>
    match words with
    | [] => .ok (false, "", [])
    | ["("] => .ok (true, "(", [])
    | "(" :: ")" :: rest => .ok (false, ")", rest)
    | "(" :: inner => do
      let (outcome, _, rest) ← anyOf questions fuel inner
      match rest with
      | ")" :: rest => .ok (outcome, ")", rest)
      | _ => .error .missingClose
    | word :: rest =>
      if beginsUnary (word :: rest) then
        match rest with
        | operand :: rest => .ok (ask questions word operand, operand, rest)
        | [] => .error (.missingOperand word)
      else
        match rest with
        | operator :: more =>
          if isBinary operator then
            match more with
            | second :: rest => do
              let outcome ← compare questions word operator second
              .ok (outcome, second, rest)
            | [] => .error (.missingOperand operator)
          else .ok (word != "", word, rest)
        | [] => .ok (word != "", word, [])

end

/-- The outcome of a row of words without special regard to their number. -/
def general (questions : FileQuestions) (words : List String) : Except Fault Bool := do
  let (outcome, last, rest) ← anyOf questions (8 * words.length + 8) words
  if rest.isEmpty then .ok outcome else .error (.unexpectedOperator last)

/-- The outcome of a row of words. -/
def evaluate (questions : FileQuestions) : List String → Except Fault Bool
  | [] => .ok false
  | [first, operator, second] =>
    if isBinary operator then compare questions first operator second
    else if first == "(" && second == ")" then .ok (operator != "")
    else if first == "!" then do
      .ok (!(← evaluate questions [operator, second]))
    else general questions [first, operator, second]
  | [first, a, b, last] =>
    if first == "(" && last == ")" then general questions [a, b]
    else if first == "!" then do
      .ok (!(← evaluate questions [a, b, last]))
    else general questions [first, a, b, last]
  | words => general questions words

end RunMeter.Shell.Condition
