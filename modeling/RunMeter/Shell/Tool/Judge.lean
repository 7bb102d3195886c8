import RunMeter.Shell.Condition
import RunMeter.Shell.Tool.Basic

/-!
# The tools that decide conditions

`test` and `[` as programs of their own. They read the same conditions as the commands of the shell,
but by rules of their own: the number of words decides first, whole numbers may be of any size, and
complaints are worded differently.
-/

set_option autoImplicit false

namespace RunMeter.Shell.Tool

/-- What may be asked about the files of a run. -/
def questions (run : Run) : Condition.FileQuestions :=
  { ofOne := run.asksFile, ofTwo := run.asksFiles }

namespace Judge

/-- A verdict and the words that are left, or a complaint. -/
abbrev Verdict := Except String (Bool × List String)

/-- The operators between two operands. -/
def isBinary (word : String) : Bool :=
  ["=", "==", "!=", "-eq", "-ne", "-ge", "-gt", "-le", "-lt", "-nt", "-ot", "-ef"].contains word

/-- Whether a word has the form of an operator before one operand. -/
def hasUnaryForm (word : String) : Bool :=
  match word.toList with
  | ['-', _] => true
  | _ => false

/-- A whole number with blanks around it. -/
def integer (text : String) : Except String Int :=
  let isSpace (c : Char) : Bool := c == ' ' || ('\t' ≤ c && c ≤ '\r')
  let trimmed := text.toList.dropWhile isSpace
  let trimmed := (trimmed.reverse.dropWhile isSpace).reverse
  let digits := match trimmed with
    | '-' :: digits => digits
    | '+' :: digits => digits
    | digits => digits
  if digits.isEmpty || !digits.all Char.isDigit then .error ("invalid integer " ++ quoted text)
  else
    let n : Int := Decimal.value digits
    .ok (if trimmed.head? == some '-' then -n else n)

/-- Applies an operator to two operands. -/
def compare (asked : Condition.FileQuestions) (first operator second : String) :
    Except String Bool := do
  match operator with
  | "=" | "==" => .ok (first == second)
  | "!=" => .ok (first != second)
  | "-nt" | "-ot" | "-ef" => .ok (asked.ofTwo first operator second)
  | _ =>
    let a ← integer first
    let b ← integer second
    match operator with
    | "-eq" => .ok (a == b)
    | "-ne" => .ok (a != b)
    | "-ge" => .ok (decide (a ≥ b))
    | "-gt" => .ok (decide (a > b))
    | "-le" => .ok (decide (a ≤ b))
    | _ => .ok (decide (a < b))

/-- The complaint that something has to follow. -/
def missing (last : String) : Verdict := .error ("missing argument after " ++ quoted last)

/-- Applies the operator ahead to the operand after it. -/
def unary (asked : Condition.FileQuestions) (last : String) : List String → Verdict
  | operator :: operand :: rest =>
    if ["-a", "-e", "-r", "-w", "-x", "-N", "-O", "-G", "-f", "-d", "-S", "-L", "-h", "-p", "-b", "-c",
        "-u", "-g", "-k", "-s", "-z", "-n", "-t"].contains operator then
      .ok (Condition.ask asked (if operator == "-a" then "-e" else operator) operand, rest)
    else .error (quoted operator ++ ": unary operator expected")
  | _ => missing last

/-- Whether one word counts as true. -/
def one (last : String) : List String → Verdict
  | word :: rest => .ok (word != "", rest)
  | [] => missing last

/-- The verdict turned around. -/
def negated (verdict : Verdict) : Verdict := verdict.map fun (value, rest) => (!value, rest)

/-- The verdict on two words. -/
def two (asked : Condition.FileQuestions) (last : String) : List String → Verdict
  | "!" :: rest => negated (one last rest)
  | word :: rest => if hasUnaryForm word then unary asked last (word :: rest) else missing last
  | [] => missing last

mutual

/-- The verdict on the first `count` words. -/
def counted (asked : Condition.FileQuestions) (last : String) (fuel count : Nat)
    (words : List String) : Verdict :=
  match fuel with
  | 0 => missing last
  | fuel + 1 =>
    match count, words with
    | 1, words => one last words
    | 2, words => two asked last words
    | 3, words => three asked last fuel words
    | 4, "!" :: rest => negated (three asked last fuel rest)
    | 4, "(" :: a :: b :: ")" :: rest =>
      (two asked last [a, b]).map fun (value, _) => (value, rest)
    | _, words => anyOf asked last fuel words

/-- The verdict on three words. -/
def three (asked : Condition.FileQuestions) (last : String) (fuel : Nat) (words : List String) :
    Verdict :=
  match fuel, words with
  | fuel + 1, first :: operator :: second :: rest => do
    if isBinary operator then .ok (← compare asked first operator second, rest)
    else if first == "!" then negated (two asked last (operator :: second :: rest))
    else if first == "(" && second == ")" then .ok (operator != "", rest)
    else if operator == "-a" || operator == "-o" then anyOf asked last fuel words
    else .error (quoted operator ++ ": binary operator expected")
  | _, _ => missing last

/-- The verdict on conditions of which one has to hold. -/
def anyOf (asked : Condition.FileQuestions) (last : String) (fuel : Nat) (words : List String) :
    Verdict := do
  match fuel with
  | 0 => missing last
  | fuel + 1 =>
    let (first, rest) ← allOf asked last fuel words
    match rest with
    | "-o" :: rest =>
      let (second, rest) ← anyOf asked last fuel rest
      .ok (first || second, rest)
    | rest => .ok (first, rest)

/-- The verdict on conditions that all have to hold. -/
def allOf (asked : Condition.FileQuestions) (last : String) (fuel : Nat) (words : List String) :
    Verdict := do
  match fuel with
  | 0 => missing last
  | fuel + 1 =>
    let (first, rest) ← term asked last fuel words
    match rest with
    | "-a" :: rest =>
      let (second, rest) ← allOf asked last fuel rest
      .ok (first && second, rest)
    | rest => .ok (first, rest)

/-- The verdict on one condition, which may be negated. -/
def term (asked : Condition.FileQuestions) (last : String) (fuel : Nat) (words : List String) :
    Verdict := do
  match fuel with
  | 0 => missing last
  | fuel + 1 =>
    match words with
    | [] => missing last
    | "!" :: rest => negated (term asked last fuel rest)
    | "(" :: inner =>
      if inner.isEmpty then missing last
      else
        let ahead := (inner.drop 1).takeWhile (· != ")")
        let count := if ahead.length ≥ 3 then inner.length else ahead.length + 1
        let (value, rest) ← counted asked last fuel count inner
        match rest with
        | [] => .error "')' expected"
        | ")" :: rest => .ok (value, rest)
        | word :: _ => .error ("')' expected, found " ++ quoted word)
    | word :: rest =>
      match rest with
      | operator :: second :: more =>
        if isBinary operator then .ok (← compare asked word operator second, more)
        else if hasUnaryForm word then unary asked last words
        else .ok (word != "", rest)
      | _ => if hasUnaryForm word then unary asked last words else .ok (word != "", rest)

end

/-- The outcome of a row of words. -/
def evaluate (asked : Condition.FileQuestions) (words : List String) : Except String Bool := do
  if words.isEmpty then .ok false
  else
    let last := words.getLast?.getD ""
    let (value, rest) ← counted asked last (8 * words.length + 8) words.length words
    match rest with
    | [] => .ok value
    | word :: _ => .error ("extra argument " ++ quoted word)

end Judge

/-- Decides a condition. -/
def test (args : List String) (run : Run) : Run :=
  match Judge.evaluate (questions run) args with
  | .ok outcome => run.ended (if outcome then 0 else 1)
  | .error text => failWith 2 run text

/-- Decides a condition between brackets. -/
def bracket (args : List String) (run : Run) : Run :=
  if args.getLast? == some "]" then test args.dropLast run else failWith 2 run "missing ']'"

end RunMeter.Shell.Tool
