import RunMeter.Shell.Element
import RunMeter.Shell.Regex.Basic
import RunMeter.Shell.Regex.Reader
import RunMeter.Shell.Tool.Judge

/-!
# Conditions of the extended dialect

Conditions that are given as words: two words are an operator and its operand, three are mostly a
comparison, and longer rows are read with the usual ranks. The questions about single operands are
shared with the conditions that are statements of their own.
-/

set_option autoImplicit false

namespace RunMeter.Shell

namespace Run

/-- Whether a variable or an element has a value. -/
def hasValue (run : Run) (text : String) : Bool :=
  match splitSubscript text with
  | (name, some "@") | (name, some "*") => (run.binding? name).any fun entry => !entry.elements.isEmpty
  | _ => (run.held? maxDepth text).isSome

/-- The outcome of an operator before one operand. -/
def asksOne (run : Run) (operator operand : String) : Bool :=
  match operator with
  | "-z" => operand.isEmpty
  | "-n" => !operand.isEmpty
  | "-t" => false
  | "-v" => run.hasValue operand
  | "-R" => (run.process.bindings.lookup operand).any (·.isReference)
  | "-o" => (Builtin.optionNames run.process).contains operand
  | "-a" => run.asksFile "-e" operand
  | _ => run.asksFile operator operand

end Run

namespace Verdict

/-- A verdict and the words that are left, or a complaint. -/
abbrev Outcome := Except String (Bool × List String)

/-- The operators between two operands. -/
def isBinary (word : String) : Bool :=
  ["=", "==", "!=", "<", ">", "-eq", "-ne", "-ge", "-gt", "-le", "-lt", "-nt", "-ot", "-ef"].contains word

/-- The complaint that something has to follow. -/
def missing : Outcome := .error "argument expected"

/-- A whole number with blanks around it. -/
def integer (text : String) : Except String Int :=
  (Tool.Judge.integer text).mapError fun _ => text ++ ": integer expression expected"

/-- Applies an operator to two operands. -/
def compare (run : Run) (first operator second : String) : Except String Bool := do
  match operator with
  | "=" | "==" => .ok (first == second)
  | "!=" => .ok (first != second)
  | "<" => .ok (decide (first < second))
  | ">" => .ok (decide (second < first))
  | "-nt" | "-ot" | "-ef" => .ok (run.asksFiles first operator second)
  | _ =>
    let a ← integer first
    let b ← integer second
    match operator with
    | "-eq" => .ok (a == b)
    | "-ne" => .ok (a != b)
    | "-ge" => .ok (decide (a ≥ b))
    | "-gt" => .ok (decide (a > b))
    | "-le" => .ok (decide (a ≤ b))
    | _ => .ok (decide (a < b))

/-- The verdict on two words. -/
def two (run : Run) (first second : String) : Except String Bool :=
  if first == "!" then .ok second.isEmpty
  else if questionOperators.contains first then .ok (run.asksOne first second)
  else .error (first ++ ": unary operator expected")

/-- The verdict on three words. -/
def three (run : Run) (first operator second : String) : Except String Bool :=
  if isBinary operator then compare run first operator second
  else if operator == "-a" then .ok (first != "" && second != "")
  else if operator == "-o" then .ok (first != "" || second != "")
  else if first == "!" then (two run operator second).map (!·)
  else if first == "(" && second == ")" then .ok (operator != "")
  else .error (operator ++ ": binary operator expected")

mutual

/-- The verdict on conditions of which one has to hold. -/
def anyOf (run : Run) (fuel : Nat) (words : List String) : Outcome := do
  match fuel with
  | 0 => missing
  | fuel + 1 =>
    let (first, rest) ← allOf run fuel words
    match rest with
    | "-o" :: rest =>
      let (second, rest) ← anyOf run fuel rest
      .ok (first || second, rest)
    | rest => .ok (first, rest)

/-- The verdict on conditions that all have to hold. -/
def allOf (run : Run) (fuel : Nat) (words : List String) : Outcome := do
  match fuel with
  | 0 => missing
  | fuel + 1 =>
    let (first, rest) ← term run fuel words
    match rest with
    | "-a" :: rest =>
      let (second, rest) ← allOf run fuel rest
      .ok (first && second, rest)
    | rest => .ok (first, rest)

/-- The verdict on one condition, which may be negated. -/
def term (run : Run) (fuel : Nat) (words : List String) : Outcome := do
  match fuel with
  | 0 => missing
  | fuel + 1 =>
    match words with
    | [] => missing
    | "!" :: rest =>
      let (value, rest) ← term run fuel rest
      .ok (!value, rest)
    | "(" :: inner =>
      let (value, rest) ← anyOf run fuel inner
      match rest with
      | [] => .error "\x60)' expected"
      | ")" :: rest => .ok (value, rest)
      | word :: _ => .error ("\x60)' expected, found " ++ word)
    | first :: rest =>
      match rest with
      | operator :: second :: more =>
        if isBinary operator then .ok (← compare run first operator second, more)
        else if questionOperators.contains first then .ok (run.asksOne first operator, second :: more)
        else .ok (first != "", rest)
      | [operand] =>
        if questionOperators.contains first then .ok (run.asksOne first operand, [])
        else .ok (first != "", rest)
      | [] => .ok (first != "", [])

end

/-- The verdict on any number of words. -/
def general (run : Run) (words : List String) : Except String Bool := do
  let (value, rest) ← anyOf run (4 * words.length + 8) words
  match rest with
  | [] => .ok value
  | _ => .error "too many arguments"

/-- The outcome of a row of words. -/
def evaluate (run : Run) : List String → Except String Bool
  | [] => .ok false
  | [word] => .ok (word != "")
  | [first, second] => two run first second
  | [first, operator, second] => three run first operator second
  | [first, a, b, last] =>
    if first == "!" then (three run a b last).map (!·)
    else if first == "(" && last == ")" then two run a b
    else general run [first, a, b, last]
  | words => general run words

end Verdict

/-! ## Texts that have to fit an expression -/

namespace Run

/-- The text of an expression in which marked characters stand for themselves. -/
def expressionText (marks : List Mark) : String :=
  String.join (marks.map fun (c, isQuoted) =>
    if isQuoted && !c.isAlphanum && c != '_' then
      (if c == ' ' then " " else "\\" ++ String.ofList [c])
    else String.ofList [c])

/-- Whether a text fits an expression, and the run in which the fitting pieces are known; nothing if
there is no such expression. -/
def matched? (run : Run) (text : String) (marks : List Mark) : Option (Bool × Run) :=
  match Regex.read { isExtended := true } (expressionText marks) with
  | .error _ => none
  | .ok regex =>
    let characters := text.toList.toArray
    let piece (range : Option (Nat × Nat)) : String :=
      match range with
      | some (start, stop) => String.ofList ((characters.toList.drop start).take (stop - start))
      | none => ""
    let keep (texts : List String) : Run :=
      run.onProcess fun process => process.restore "BASH_REMATCH" (some (listOf texts))
    match regex.search? characters 0 with
    | none => some (false, keep [])
    | some found =>
      let groups := (List.range' 1 regex.groupCount).map fun n => piece (found.group? n)
      some (true, keep (piece (some (found.start, found.stop)) :: groups))

end Run

end RunMeter.Shell
