import RunMeter.Number.Notation
import RunMeter.Shell.Print
import RunMeter.Shell.Scan.Program

/-!
# Reading programs that scan records

A program is divided into tokens, and these are read by one function for each rank of operators. A
slash begins a regular expression where an operand may stand and divides everywhere else.
-/

set_option autoImplicit false

namespace RunMeter.Shell.Scan

/-! ## Tokens -/

/-- A token. -/
inductive Token
  | number (value : Float)
  | text (value : String)
  | regex (source : String)
  | name (name : String)
  /-- A name right before an opening parenthesis. -/
  | call (name : String)
  | builtin (name : String)
  | keyword (name : String)
  | mark (text : String)
  | lineEnd

/-- A token, the line on which it stands and how many parentheses are open before it. -/
structure Placed where
  token : Token
  line : Nat
  parentheses : Nat := 0

/-- A fault and the line on which it lies. -/
abbrev Complaint := Fault × Nat

/-- The text of a token in complaints. -/
def Token.shown : Token → String
  | .number value =>
    match Quantity.ofFloat value with
    | .finite _ n d => String.ofList (Quantity.general 6 false n d)
    | _ => "inf"
  | .text value => value
  | .regex source => "/" ++ source ++ "/"
  | .name word | .call word | .builtin word | .keyword word => word
  | .mark word => word
  | .lineEnd => "end of line"

/-- The words with a meaning of their own. -/
def keywords : List String :=
  ["BEGIN", "END", "break", "continue", "delete", "do", "else", "exit", "for", "func", "function",
    "getline", "if", "in", "next", "nextfile", "print", "printf", "return", "while"]

/-- The functions that every program has, and how many arguments they take at least and at most. -/
def builtins : List (String × Nat × Nat) :=
  [("length", 0, 1), ("index", 2, 2), ("substr", 2, 3), ("split", 2, 3), ("sub", 2, 3),
    ("gsub", 2, 3), ("match", 2, 2), ("sprintf", 1, 255), ("sin", 1, 1), ("cos", 1, 1),
    ("atan2", 2, 2), ("exp", 1, 1), ("log", 1, 1), ("sqrt", 1, 1), ("int", 1, 1), ("rand", 0, 0),
    ("srand", 0, 1), ("tolower", 1, 1), ("toupper", 1, 1), ("system", 1, 1), ("close", 1, 1),
    ("fflush", 0, 1), ("systime", 0, 0), ("strftime", 0, 3)]

/-- The marks, longer ones before the shorter ones that they begin with. -/
def marks : List String :=
  ["&&", "||", "++", "--", "+=", "-=", "*=", "/=", "%=", "^=", "==", "<=", ">=", "!=", "!~", ">>",
    "\x7b", "\x7d", "(", ")", "[", "]", ";", ",", "+", "-", "*", "/", "%", "^", "!", ">", "<", "|",
    "?", ":", "~", "$", "="]

/-- Whether an operand may stand behind a token, so that a slash begins a regular expression. -/
def Token.precedesOperand : Token → Bool
  | .number _ | .text _ | .regex _ | .name _ | .builtin _ => false
  | .mark word => word != ")" && word != "]" && word != "$" && word != "++" && word != "--"
  | _ => true

/-- The text of a string constant behind its quote, with its escapes replaced. `fuel` is more than
the length of the rest. -/
def constantText (reversed : List Char) : (fuel : Nat) → List Char → Option (String × List Char)
  | 0, _ => none
  | _, [] => none
  | _, '\n' :: _ => none
  | _ + 1, '"' :: rest => some (String.ofList reversed.reverse, rest)
  | fuel + 1, '\\' :: c :: rest =>
    let plain (c : Char) : Option (String × List Char) := constantText (c :: reversed) fuel rest
    match c with
    | '"' => plain '"'
    | '\\' => plain '\\'
    | 'n' => plain '\n'
    | 't' => plain '\t'
    | 'r' => plain '\r'
    | 'a' => plain '\x07'
    | 'b' => plain '\x08'
    | 'f' => plain '\x0c'
    | 'v' => plain '\x0b'
    | '\n' => constantText reversed fuel rest
    | 'x' =>
      let digits := (rest.takeWhile fun c => (Quantity.hexDigit? c).isSome).take 2
      if digits.isEmpty then constantText ('x' :: '\\' :: reversed) fuel rest
      else
        let n := digits.foldl (fun n c => n * 16 + (Quantity.hexDigit? c).getD 0) 0
        constantText (Char.ofNat n :: reversed) fuel (rest.drop digits.length)
    | c =>
      if '0' ≤ c && c ≤ '7' then
        let digits := ((c :: rest).takeWhile fun c => '0' ≤ c && c ≤ '7').take 3
        let n := digits.foldl (fun n c => n * 8 + (c.toNat - 48)) 0
        constantText (Char.ofNat (n % 256) :: reversed) fuel ((c :: rest).drop digits.length)
      else constantText (c :: '\\' :: reversed) fuel rest
  | fuel + 1, c :: rest => constantText (c :: reversed) fuel rest

/-- The source of a regular expression behind its slash. `inSet` says whether a set is open. -/
def regexSource (inSet : Bool) (reversed : List Char) :
    (fuel : Nat) → List Char → Option (String × List Char)
  | 0, _ => none
  | _, [] => none
  | _, '\n' :: _ => none
  | fuel + 1, '\\' :: '/' :: rest => regexSource inSet ('/' :: reversed) fuel rest
  | fuel + 1, '\\' :: c :: rest => regexSource inSet (c :: '\\' :: reversed) fuel rest
  | fuel + 1, '/' :: rest =>
    if inSet then regexSource inSet ('/' :: reversed) fuel rest
    else some (String.ofList reversed.reverse, rest)
  | fuel + 1, '[' :: rest =>
    if inSet then regexSource inSet ('[' :: reversed) fuel rest
    else
      match rest with
      | '^' :: ']' :: more => regexSource true (']' :: '^' :: '[' :: reversed) fuel more
      | ']' :: more => regexSource true (']' :: '[' :: reversed) fuel more
      | more => regexSource true ('[' :: reversed) fuel more
  | fuel + 1, ']' :: rest => regexSource false (']' :: reversed) fuel rest
  | fuel + 1, c :: rest => regexSource inSet (c :: reversed) fuel rest

/-- The number at the start of a text, and the rest. -/
def numberToken? (text : List Char) : Option (Float × List Char) :=
  match text with
  | c :: rest =>
    if c.isDigit || (c == '.' && rest.head?.any Char.isDigit) then
      -- an exponent needs digits
      (Quantity.digitsAround? 10 Quantity.decimalDigit? text).map fun (n, places, rest) =>
        let isExponent := match rest with
          | e :: d :: more =>
            (e == 'e' || e == 'E') &&
              (d.isDigit || ((d == '+' || d == '-') && more.head?.any Char.isDigit))
          | _ => false
        let (exponent, rest) :=
          if isExponent then Quantity.exponentBehind 'e' 'E' rest else ((0 : Int), rest)
        (Binary64.ofDecimal n (exponent - (places : Int)), rest)
    else none
  | [] => none

/-- Whether a character may stand in a name. -/
def isNameCharacter (c : Char) : Bool := c.isAlphanum || c == '_'

/-- Divides a program into tokens. `fuel` is more than its length. -/
def tokens (line : Nat) (operandMayFollow : Bool) :
    (fuel : Nat) → List Char → Except Complaint (List Placed)
  | 0, _ => .ok []
  | _, [] => .ok []
  | fuel + 1, c :: rest =>
    let put (token : Token) (line : Nat) (rest : List Char) : Except Complaint (List Placed) := do
      let more ← tokens line token.precedesOperand fuel rest
      .ok ({ token, line } :: more)
    if c == '\n' then do
      let more ← tokens (line + 1) true fuel rest
      .ok ({ token := .lineEnd, line } :: more)
    else if c == ' ' || c == '\t' || c == '\r' then tokens line operandMayFollow fuel rest
    else if c == '#' then tokens line operandMayFollow fuel (rest.dropWhile (· != '\n'))
    else if c == '\\' && rest.head? == some '\n' then
      tokens (line + 1) operandMayFollow fuel (rest.drop 1)
    else if c == '\\' && rest.take 2 == ['\r', '\n'] then
      tokens (line + 1) operandMayFollow fuel (rest.drop 2)
    else if c == '"' then
      match constantText [] (rest.length + 1) rest with
      | some (value, rest) => put (.text value) line rest
      | none => .error (.openText (String.ofList ((rest.takeWhile (· != '\n')).take 10)), line)
    else if c == '/' && operandMayFollow then
      match regexSource false [] (rest.length + 1) rest with
      | some (source, rest) => put (.regex source) line rest
      | none => .error (.openRegex (String.ofList ((rest.takeWhile (· != '\n')).take 10)), line)
    else
      match numberToken? (c :: rest) with
      | some (value, rest) => put (.number value) line rest
      | none =>
        if isNameCharacter c then
          let name := (c :: rest).takeWhile isNameCharacter
          let after := (c :: rest).drop name.length
          let name := String.ofList name
          if keywords.contains name then put (.keyword name) line after
          else if (builtins.lookup name).isSome then put (.builtin name) line after
          else if after.head? == some '(' then put (.call name) line after
          else put (.name name) line after
        else
          match marks.find? fun mark => mark.toList.isPrefixOf (c :: rest) with
          | some mark => put (.mark mark) line ((c :: rest).drop mark.length)
          | none => .error (.strayCharacter c, line)

/-- Leaves out the brackets that close nothing, and gives the complaints about them. What follows a
surplus brace cannot be the end. -/
def balanced (braces parentheses : Nat) : List Placed → List Complaint × List Placed
  | [] => ([], [])
  | placed :: rest =>
    let kept (braces parentheses' : Nat) : List Complaint × List Placed :=
      let (complaints, more) := balanced braces parentheses' rest
      (complaints, { placed with parentheses } :: more)
    match placed.token with
    | .mark "(" => kept braces (parentheses + 1)
    | .mark "\x7b" => kept (braces + 1) parentheses
    | .mark ")" =>
      if parentheses = 0 then
        let (complaints, more) := balanced braces 0 rest
        ((.surplusParenthesis, placed.line) :: complaints, more)
      else kept braces (parentheses - 1)
    | .mark "\x7d" =>
      if braces = 0 then
        let (complaints, more) := balanced 0 parentheses rest
        let ended : List Complaint :=
          if rest.isEmpty then [(.unexpectedEnd, placed.line)] else []
        ((.surplusBrace, placed.line) :: ended ++ complaints, more)
      else kept (braces - 1) 0
    | _ => kept braces parentheses

/-- How many braces are left open. -/
def openBraces (tokens : List Placed) : Int :=
  tokens.foldl
    (fun count placed =>
      match placed.token with
      | .mark "\x7b" => count + 1
      | .mark "\x7d" => count - 1
      | _ => count)
    0

/-- How many parentheses are left open. -/
def openParentheses (tokens : List Placed) : Nat :=
  match tokens.getLast? with
  | some { token := .mark "(", parentheses, .. } => parentheses + 1
  | some { token := .mark ")", parentheses, .. } => parentheses - 1
  | some { token := .mark "\x7d", .. } => 0
  | some placed => placed.parentheses
  | none => 0

/-! ## Expressions -/

/-- What is left of a program, and where the reader stands. -/
structure Cursor where
  rest : List Placed
  /-- The line after the last one. -/
  lastLine : Nat
  /-- How many parentheses are open at the end. -/
  leftOpen : Nat := 0
  /-- How many braces are open. -/
  braces : Nat := 0
  inFunction : Bool := false
  inRule : Bool := false

namespace Cursor

/-- The next token. -/
def token? (cursor : Cursor) : Option Token := cursor.rest.head?.map (·.token)

/-- The next mark, or nothing. -/
def mark (cursor : Cursor) : String :=
  match cursor.token? with
  | some (.mark text) => text
  | _ => ""

/-- The next keyword, or nothing. -/
def keyword (cursor : Cursor) : String :=
  match cursor.token? with
  | some (.keyword name) => name
  | _ => ""

/-- The cursor behind the next token. -/
def past (cursor : Cursor) : Cursor := { cursor with rest := cursor.rest.drop 1 }

/-- The fault of a token that cannot stand where it does. -/
def fault (cursor : Cursor) : Complaint :=
  match cursor.rest with
  | [] =>
    if cursor.leftOpen > 0 then (.missingParenthesis "end of line", cursor.lastLine - 1)
    else if cursor.braces > 0 then (.missingBrace, cursor.lastLine)
    else (.unexpectedEnd, cursor.lastLine - 1)
  | placed :: _ =>
    let isOpen := placed.parentheses > 0
    match placed.token with
    | .lineEnd =>
      (if isOpen then .missingParenthesis "end of line" else .unexpectedEnd, placed.line)
    | .mark ";" => (if isOpen then .missingParenthesis ";" else .unexpected ";", placed.line)
    | .mark "\x7d" => (if isOpen then .missingParenthesis "\x7d" else .unexpected "\x7d", placed.line)
    | token => (.unexpected token.shown, placed.line)

/-- A fault on the line of the next token. -/
def complaint (cursor : Cursor) (fault : Fault) : Complaint :=
  (fault, (cursor.rest.head?.map (·.line)).getD cursor.lastLine)

/-- Passes a mark. -/
def expect (cursor : Cursor) (text : String) : Except Complaint Cursor :=
  if cursor.mark == text then .ok cursor.past else .error cursor.fault

/-- Skips the ends of lines. -/
def skipLines (cursor : Cursor) : Cursor :=
  { cursor with
    rest := cursor.rest.dropWhile fun placed =>
      match placed.token with
      | .lineEnd => true
      | _ => false }

/-- Skips the ends of lines and of statements. -/
def skipEnds (cursor : Cursor) : Cursor :=
  { cursor with
    rest := cursor.rest.dropWhile fun placed =>
      match placed.token with
      | .lineEnd => true
      | .mark ";" => true
      | _ => false }

end Cursor

/-- Whether a term can be given a value. -/
def Term.isPlace : Term → Bool
  | .variable _ | .element _ _ | .field _ => true
  | _ => false

/-- The operator of an assignment. -/
def assignment? (mark : String) : Option (Option Operator) :=
  match mark with
  | "=" => some none
  | "+=" => some (some .add)
  | "-=" => some (some .subtract)
  | "*=" => some (some .multiply)
  | "/=" => some (some .divide)
  | "%=" => some (some .remainder)
  | "^=" => some (some .power)
  | _ => none

/-- The relation that a mark stands for. Where output goes to files, one of them does not compare. -/
def relation? (comparesMore : Bool) (mark : String) : Option Relation :=
  match mark with
  | "<" => some .less
  | "<=" => some .atMost
  | "==" => some .equal
  | "!=" => some .unequal
  | ">=" => some .atLeast
  | ">" => if comparesMore then some .more else none
  | _ => none

/-- Whether a token begins an operand that is joined to the one before it. -/
def Token.beginsOperand : Token → Bool
  | .number _ | .text _ | .regex _ | .name _ | .call _ | .builtin _ => true
  | .mark word => ["$", "!", "(", "-", "+", "++", "--"].contains word
  | _ => false

/-- What surrounds an expression: whether a sign for more compares there. -/
structure Surround where
  comparesMore : Bool := true

mutual

/-- Reads an expression. -/
def readTerm (fuel : Nat) (around : Surround) (cursor : Cursor) : Except Complaint (Term × Cursor) :=
  match fuel with
  | 0 => .error cursor.fault
  | fuel + 1 => do
    let (test, cursor) ← readEither fuel around cursor
    if cursor.mark == "?" then
      let (yes, cursor) ← readTerm fuel around cursor.past.skipLines
      let cursor := cursor.skipLines
      let cursor ← cursor.expect ":"
      let (no, cursor) ← readTerm fuel around cursor
      .ok (.choice test yes no, cursor)
    else
      match assignment? cursor.mark with
      | some operator =>
        -- what is given a value may be the last part of the term
        match test.isPlace with
        | true =>
          let (value, cursor) ← readTerm fuel around cursor.past
          .ok (.assign operator test value, cursor)
        | false => readAssignedWithin fuel around operator test cursor
      | none => .ok (test, cursor)

/-- Reads an assignment to the last operand of a term that was read before it. -/
def readAssignedWithin (fuel : Nat) (around : Surround) (operator : Option Operator) (before : Term)
    (cursor : Cursor) : Except Complaint (Term × Cursor) :=
  match fuel with
  | 0 => .error cursor.fault
  | fuel + 1 => do
    let within (last : Term) : Except Complaint (Term × Cursor) :=
      if last.isPlace then do
        let (value, cursor) ← readTerm fuel around cursor.past
        .ok (.assign operator last value, cursor)
      else readAssignedWithin fuel around operator last cursor
    match before with
    | .both first last =>
      let (last, cursor) ← within last
      .ok (.both first last, cursor)
    | .either first last =>
      let (last, cursor) ← within last
      .ok (.either first last, cursor)
    | .not last =>
      let (last, cursor) ← within last
      .ok (.not last, cursor)
    | .related relation first last =>
      let (last, cursor) ← within last
      .ok (.related relation first last, cursor)
    | .matches isNegated first last =>
      let (last, cursor) ← within last
      .ok (.matches isNegated first last, cursor)
    | .joined first last =>
      let (last, cursor) ← within last
      .ok (.joined first last, cursor)
    | .applied operator first last =>
      let (last, cursor) ← within last
      .ok (.applied operator first last, cursor)
    | .signed isNegative last =>
      let (last, cursor) ← within last
      .ok (.signed isNegative last, cursor)
    | _ => .error cursor.fault

/-- Reads terms of which one has to hold. -/
def readEither (fuel : Nat) (around : Surround) (cursor : Cursor) : Except Complaint (Term × Cursor) :=
  match fuel with
  | 0 => .error cursor.fault
  | fuel + 1 => do
    let (first, cursor) ← readBoth fuel around cursor
    moreEither fuel around first cursor

/-- Reads what follows the first of the terms of which one has to hold. -/
def moreEither (fuel : Nat) (around : Surround) (first : Term) (cursor : Cursor) : Except Complaint (Term × Cursor) :=
  match fuel with
  | 0 => .error cursor.fault
  | fuel + 1 =>
    if cursor.mark == "||" then do
      let (second, cursor) ← readBoth fuel around cursor.past.skipLines
      moreEither fuel around (.either first second) cursor
    else .ok (first, cursor)

/-- Reads terms that all have to hold. -/
def readBoth (fuel : Nat) (around : Surround) (cursor : Cursor) : Except Complaint (Term × Cursor) :=
  match fuel with
  | 0 => .error cursor.fault
  | fuel + 1 => do
    let (first, cursor) ← readMembership fuel around cursor
    moreBoth fuel around first cursor

/-- Reads what follows the first of the terms that all have to hold. -/
def moreBoth (fuel : Nat) (around : Surround) (first : Term) (cursor : Cursor) : Except Complaint (Term × Cursor) :=
  match fuel with
  | 0 => .error cursor.fault
  | fuel + 1 =>
    if cursor.mark == "&&" then do
      let (second, cursor) ← readMembership fuel around cursor.past.skipLines
      moreBoth fuel around (.both first second) cursor
    else .ok (first, cursor)

/-- Reads a question for the members of an array. -/
def readMembership (fuel : Nat) (around : Surround) (cursor : Cursor) : Except Complaint (Term × Cursor) :=
  match fuel with
  | 0 => .error cursor.fault
  | fuel + 1 => do
    let (first, cursor) ← readMatching fuel around cursor
    moreMembership fuel around first cursor

/-- Reads what follows the subject of such a question. -/
def moreMembership (fuel : Nat) (around : Surround) (first : Term) (cursor : Cursor) : Except Complaint (Term × Cursor) :=
  match fuel with
  | 0 => .error cursor.fault
  | fuel + 1 =>
    if cursor.keyword == "in" then
      match cursor.past.token? with
      | some (.name array) => moreMembership fuel around (.isMember [first] array) cursor.past.past
      | _ => .error cursor.past.fault
    else .ok (first, cursor)

/-- Reads a comparison with a regular expression. -/
def readMatching (fuel : Nat) (around : Surround) (cursor : Cursor) : Except Complaint (Term × Cursor) :=
  match fuel with
  | 0 => .error cursor.fault
  | fuel + 1 => do
    let (first, cursor) ← readRelation fuel around cursor
    moreMatching fuel around first cursor

/-- Reads what follows the subject of such a comparison. -/
def moreMatching (fuel : Nat) (around : Surround) (first : Term) (cursor : Cursor) : Except Complaint (Term × Cursor) :=
  match fuel with
  | 0 => .error cursor.fault
  | fuel + 1 =>
    if cursor.mark == "~" || cursor.mark == "!~" then do
      let isNegated := cursor.mark == "!~"
      let (second, cursor) ← readRelation fuel around cursor.past
      moreMatching fuel around (.matches isNegated first second) cursor
    else .ok (first, cursor)

/-- Reads a comparison of two values. -/
def readRelation (fuel : Nat) (around : Surround) (cursor : Cursor) : Except Complaint (Term × Cursor) :=
  match fuel with
  | 0 => .error cursor.fault
  | fuel + 1 => do
    let (first, cursor) ← readPiped fuel around cursor
    match relation? around.comparesMore cursor.mark with
    | some relation =>
      let (second, cursor) ← readPiped fuel around cursor.past
      .ok (.related relation first second, cursor)
    | none => .ok (first, cursor)

/-- Reads a text, or a line of what a command prints. -/
def readPiped (fuel : Nat) (around : Surround) (cursor : Cursor) : Except Complaint (Term × Cursor) :=
  match fuel with
  | 0 => .error cursor.fault
  | fuel + 1 => do
    let (first, cursor) ← readJoined fuel around cursor
    morePiped fuel around first cursor

/-- Reads what follows the text of a command. -/
def morePiped (fuel : Nat) (around : Surround) (first : Term) (cursor : Cursor) : Except Complaint (Term × Cursor) :=
  match fuel with
  | 0 => .error cursor.fault
  | fuel + 1 =>
    if cursor.mark == "|" && cursor.past.keyword == "getline" then do
      let (target, cursor) ← readLineTarget fuel cursor.past.past
      morePiped fuel around (.line .command (some first) target) cursor
    else .ok (first, cursor)

/-- Reads terms that are put one after another. -/
def readJoined (fuel : Nat) (around : Surround) (cursor : Cursor) : Except Complaint (Term × Cursor) :=
  match fuel with
  | 0 => .error cursor.fault
  | fuel + 1 => do
    let (first, cursor) ← readSum fuel around cursor
    moreJoined fuel around first cursor

/-- Reads what follows the first of the terms that are put one after another. -/
def moreJoined (fuel : Nat) (around : Surround) (first : Term) (cursor : Cursor) : Except Complaint (Term × Cursor) :=
  match fuel with
  | 0 => .error cursor.fault
  | fuel + 1 =>
    if cursor.token?.any Token.beginsOperand then do
      let (second, cursor) ← readSum fuel around cursor
      moreJoined fuel around (.joined first second) cursor
    else .ok (first, cursor)

/-- Reads a sum. -/
def readSum (fuel : Nat) (around : Surround) (cursor : Cursor) : Except Complaint (Term × Cursor) :=
  match fuel with
  | 0 => .error cursor.fault
  | fuel + 1 => do
    let (first, cursor) ← readProduct fuel around cursor
    moreSum fuel around first cursor

/-- Reads what follows the first part of a sum. -/
def moreSum (fuel : Nat) (around : Surround) (first : Term) (cursor : Cursor) : Except Complaint (Term × Cursor) :=
  match fuel with
  | 0 => .error cursor.fault
  | fuel + 1 =>
    let operator : Option Operator := match cursor.mark with
      | "+" => some .add
      | "-" => some .subtract
      | _ => none
    match operator with
    | some operator => do
      let (second, cursor) ← readProduct fuel around cursor.past
      moreSum fuel around (.applied operator first second) cursor
    | none => .ok (first, cursor)

/-- Reads a product. -/
def readProduct (fuel : Nat) (around : Surround) (cursor : Cursor) : Except Complaint (Term × Cursor) :=
  match fuel with
  | 0 => .error cursor.fault
  | fuel + 1 => do
    let (first, cursor) ← readSigned fuel around cursor
    moreProduct fuel around first cursor

/-- Reads what follows the first part of a product. -/
def moreProduct (fuel : Nat) (around : Surround) (first : Term) (cursor : Cursor) : Except Complaint (Term × Cursor) :=
  match fuel with
  | 0 => .error cursor.fault
  | fuel + 1 =>
    let operator : Option Operator := match cursor.mark with
      | "*" => some .multiply
      | "/" => some .divide
      | "%" => some .remainder
      | _ => none
    match operator with
    | some operator => do
      let (second, cursor) ← readSigned fuel around cursor.past
      moreProduct fuel around (.applied operator first second) cursor
    | none => .ok (first, cursor)

/-- Reads a term behind signs. -/
def readSigned (fuel : Nat) (around : Surround) (cursor : Cursor) : Except Complaint (Term × Cursor) :=
  match fuel with
  | 0 => .error cursor.fault
  | fuel + 1 =>
    match cursor.mark with
    | "!" => do
      let (inner, cursor) ← readSigned fuel around cursor.past
      .ok (.not inner, cursor)
    | "-" => do
      let (inner, cursor) ← readSigned fuel around cursor.past
      .ok (.signed true inner, cursor)
    | "+" => do
      let (inner, cursor) ← readSigned fuel around cursor.past
      .ok (.signed false inner, cursor)
    | _ => readPower fuel around cursor

/-- Reads a power. -/
def readPower (fuel : Nat) (around : Surround) (cursor : Cursor) : Except Complaint (Term × Cursor) :=
  match fuel with
  | 0 => .error cursor.fault
  | fuel + 1 => do
    let (base, cursor) ← readStepped fuel around cursor
    if cursor.mark == "^" then
      -- a sign may stand before the exponent, which groups to the right
      let (exponent, cursor) ← readExponent fuel around cursor.past
      .ok (.applied .power base exponent, cursor)
    else .ok (base, cursor)

/-- Reads an exponent. -/
def readExponent (fuel : Nat) (around : Surround) (cursor : Cursor) : Except Complaint (Term × Cursor) :=
  match fuel with
  | 0 => .error cursor.fault
  | fuel + 1 =>
    match cursor.mark with
    | "-" => do
      let (inner, cursor) ← readExponent fuel around cursor.past
      .ok (.signed true inner, cursor)
    | "+" => do
      let (inner, cursor) ← readExponent fuel around cursor.past
      .ok (.signed false inner, cursor)
    | "!" => do
      let (inner, cursor) ← readExponent fuel around cursor.past
      .ok (.not inner, cursor)
    | _ => readPower fuel around cursor

/-- Reads a term with steps up or down. -/
def readStepped (fuel : Nat) (around : Surround) (cursor : Cursor) : Except Complaint (Term × Cursor) :=
  match fuel with
  | 0 => .error cursor.fault
  | fuel + 1 => do
    if cursor.mark == "++" || cursor.mark == "--" then
      let isUp := cursor.mark == "++"
      let (target, next) ← readPrimary fuel around cursor.past
      if target.isPlace then .ok (.stepped true isUp target, next) else .error cursor.past.fault
    else
      let (target, cursor) ← readPrimary fuel around cursor
      if target.isPlace && (cursor.mark == "++" || cursor.mark == "--") then
        .ok (.stepped false (cursor.mark == "++") target, cursor.past)
      else .ok (target, cursor)

/-- Reads an operand. -/
def readPrimary (fuel : Nat) (around : Surround) (cursor : Cursor) : Except Complaint (Term × Cursor) :=
  match fuel with
  | 0 => .error cursor.fault
  | fuel + 1 =>
    match cursor.token? with
    | some (.number value) => .ok (.number value, cursor.past)
    | some (.text value) => .ok (.text value, cursor.past)
    | some (.regex source) => .ok (.regex source, cursor.past)
    | some (.name name) =>
      if cursor.past.mark == "[" then do
        let (subscripts, cursor) ← readTerms fuel {} cursor.past.past
        let cursor ← cursor.expect "]"
        .ok (.element name subscripts, cursor)
      else .ok (.variable name, cursor.past)
    | some (.call name) => do
      let (terms, cursor) ← readArguments fuel cursor.past.past
      .ok (.call name terms, cursor)
    | some (.builtin name) => do
      let (least, most) := (builtins.lookup name).getD (0, 255)
      if cursor.past.mark == "(" then
        let (terms, next) ← readArguments fuel cursor.past.past
        if terms.length < least || most < terms.length then
          .error (cursor.complaint (.wrongCount name))
        else .ok (.builtin name terms, next)
      else if name == "length" then .ok (.builtin name [], cursor.past)
      else .error cursor.past.fault
    | some (.mark "$") => do
      if cursor.past.mark == "++" || cursor.past.mark == "--" || cursor.past.mark == "-" then
        let (index, cursor) ← readSigned fuel around cursor.past
        .ok (.field index, cursor)
      else
        let (index, cursor) ← readPrimary fuel around cursor.past
        .ok (.field index, cursor)
    | some (.mark "(") => do
      let (terms, cursor) ← readTerms fuel {} cursor.past
      let cursor ← cursor.expect ")"
      match terms with
      | [term] =>
        -- what stands in parentheses cannot be given a value, but fields and variables can
        .ok (term, cursor)
      | terms =>
        if cursor.keyword == "in" then
          match cursor.past.token? with
          | some (.name array) => .ok (.isMember terms array, cursor.past.past)
          | _ => .error cursor.past.fault
        else .error cursor.fault
    | some (.mark "-") | some (.mark "+") | some (.mark "!") => readSigned fuel around cursor
    | some (.keyword "getline") => do
      let (target, cursor) ← readLineTarget fuel cursor.past
      if cursor.mark == "<" then
        let (source, cursor) ← readPrimary fuel around cursor.past
        .ok (.line .file (some source) target, cursor)
      else .ok (.line .records none target, cursor)
    | _ => .error cursor.fault

/-- Reads what a line is read into, if that is named. -/
def readLineTarget (fuel : Nat) (cursor : Cursor) : Except Complaint (Option Term × Cursor) :=
  match fuel with
  | 0 => .error cursor.fault
  | fuel + 1 =>
    match cursor.token? with
    | some (.name _) | some (.mark "$") => do
      let (target, cursor) ← readPrimary fuel {} cursor
      .ok (some target, cursor)
    | _ => .ok (none, cursor)

/-- Reads terms between commas. -/
def readTerms (fuel : Nat) (around : Surround) (cursor : Cursor) : Except Complaint (List Term × Cursor) :=
  match fuel with
  | 0 => .error cursor.fault
  | fuel + 1 => do
    let (first, cursor) ← readTerm fuel around cursor
    if cursor.mark == "," then
      let (rest, cursor) ← readTerms fuel around cursor.past.skipLines
      .ok (first :: rest, cursor)
    else .ok ([first], cursor)

/-- Reads the arguments of a function behind their parenthesis. -/
def readArguments (fuel : Nat) (cursor : Cursor) : Except Complaint (List Term × Cursor) :=
  match fuel with
  | 0 => .error cursor.fault
  | fuel + 1 =>
    if cursor.mark == ")" then .ok ([], cursor.past)
    else do
      let (terms, cursor) ← readTerms fuel {} cursor
      let cursor ← cursor.expect ")"
      .ok (terms, cursor)

end

/-! ## Statements -/

/-- What follows the parenthesis that closes the one just passed. -/
def afterParenthesis (depth : Nat) : List Placed → List Placed
  | [] => []
  | placed :: rest =>
    match placed.token with
    | .mark "(" => afterParenthesis (depth + 1) rest
    | .mark ")" => if depth = 0 then rest else afterParenthesis (depth - 1) rest
    | _ => afterParenthesis depth rest

/-- Whether a statement ends before what is left. -/
def endsStatement (rest : List Placed) : Bool :=
  match rest with
  | [] => true
  | placed :: _ =>
    match placed.token with
    | .lineEnd => true
    | .mark text => text == ";" || text == "\x7d"
    | _ => false

/-- Whether what is left is an end of a statement or says where its output goes. -/
def endsOutput (rest : List Placed) : Bool :=
  endsStatement rest ||
    match rest with
    | { token := .mark text, .. } :: _ => text == ">" || text == ">>" || text == "|"
    | _ => false

/-- Reads what is printed and where it goes. -/
def readOutput (fuel : Nat) (cursor : Cursor) : Except Complaint ((List Term × Option (Goal × Term)) × Cursor) := do
  let around : Surround := { comparesMore := false }
  let (terms, cursor) ←
    if endsOutput cursor.rest then pure ([], cursor)
    else if cursor.mark == "(" && endsOutput (afterParenthesis 0 (cursor.rest.drop 1)) then
      let (terms, cursor) ← readTerms fuel {} cursor.past
      let cursor ← cursor.expect ")"
      pure (terms, cursor)
    else readTerms fuel around cursor
  let goal : Option Goal := match cursor.mark with
    | ">" => some (.file false)
    | ">>" => some (.file true)
    | "|" => some .command
    | _ => none
  match goal with
  | none => .ok ((terms, none), cursor)
  | some goal =>
    let (name, cursor) ← readTerm fuel around cursor.past
    .ok ((terms, some (goal, name)), cursor)

/-- Reads the end of a simple statement. -/
def readEnd (cursor : Cursor) : Except Complaint Cursor :=
  match cursor.token? with
  | some .lineEnd => .ok cursor.past
  | some (.mark ";") => .ok cursor.past
  | some (.mark "\x7d") => .ok cursor
  | _ => .error cursor.fault

mutual

/-- Reads a statement. -/
def readAction (fuel : Nat) (cursor : Cursor) : Except Complaint (Action × Cursor) :=
  match fuel with
  | 0 => .error cursor.fault
  | fuel + 1 =>
    let simple (action : Action) (cursor : Cursor) : Except Complaint (Action × Cursor) := do
      .ok (action, ← readEnd cursor)
    match cursor.token? with
    | some (.mark "\x7b") => readBlock fuel cursor
    | some (.mark ";") => .ok (.block [], cursor.past)
    | some (.keyword name) =>
      match name with
      | "if" => do
        let cursor ← cursor.past.expect "("
        let (test, cursor) ← readTerm fuel {} cursor
        let cursor ← cursor.expect ")"
        let (yes, cursor) ← readAction fuel cursor.skipLines
        -- ends of lines and one end of a statement may stand before the other branch
        if cursor.skipEnds.keyword == "else" then
          let (no, cursor) ← readAction fuel cursor.skipEnds.past.skipLines
          .ok (.conditional test yes no, cursor)
        else .ok (.conditional test yes (.block []), cursor)
      | "while" => do
        let cursor ← cursor.past.expect "("
        let (test, cursor) ← readTerm fuel {} cursor
        let cursor ← cursor.expect ")"
        if cursor.mark == ";" then .ok (.loop test (.block []), cursor.past)
        else
          let (body, cursor) ← readAction fuel cursor.skipLines
          .ok (.loop test body, cursor)
      | "do" => do
        let (body, cursor) ← readAction fuel cursor.past.skipLines
        let cursor := cursor.skipEnds
        if cursor.keyword != "while" then .error cursor.fault
        else
          let cursor ← cursor.past.expect "("
          let (test, cursor) ← readTerm fuel {} cursor
          let cursor ← cursor.expect ")"
          simple (.doLoop body test) cursor
      | "for" => readFor fuel cursor.past
      | "next" | "nextfile" =>
        if !cursor.inRule && !cursor.inFunction then .error (cursor.complaint (.misplaced name))
        else simple (if name == "next" then .next else .nextFile) cursor.past
      | "exit" => do
        if endsStatement cursor.past.rest then simple (.leave none) cursor.past
        else
          let (status, cursor) ← readTerm fuel {} cursor.past
          simple (.leave (some status)) cursor
      | "return" => do
        if !cursor.inFunction then .error (cursor.complaint .outsideFunction)
        else if endsStatement cursor.past.rest then simple (.give none) cursor.past
        else
          let (value, cursor) ← readTerm fuel {} cursor.past
          simple (.give (some value)) cursor
      | "break" => simple .breakOut cursor.past
      | "continue" => simple .goOn cursor.past
      | "delete" =>
        match cursor.past.token? with
        | some (.name array) => do
          let cursor := cursor.past.past
          if cursor.mark == "[" then
            let (subscripts, cursor) ← readTerms fuel {} cursor.past
            let cursor ← cursor.expect "]"
            simple (.delete array (some subscripts)) cursor
          else simple (.delete array none) cursor
        | _ => .error cursor.past.fault
      | _ => do
        let (action, cursor) ← readSimple fuel cursor
        simple action cursor
    | _ => do
      let (action, cursor) ← readSimple fuel cursor
      simple action cursor

/-- Reads a statement that prints or computes. -/
def readSimple (fuel : Nat) (cursor : Cursor) : Except Complaint (Action × Cursor) :=
  match fuel with
  | 0 => .error cursor.fault
  | fuel + 1 => do
    match cursor.keyword with
    | "print" =>
      let ((terms, goal), cursor) ← readOutput fuel cursor.past
      .ok (.print terms goal, cursor)
    | "printf" =>
      let ((terms, goal), next) ← readOutput fuel cursor.past
      if terms.isEmpty then .error (cursor.complaint .noArguments)
      else .ok (.format terms goal, next)
    | _ =>
      let (term, cursor) ← readTerm fuel {} cursor
      .ok (.value term, cursor)

/-- Reads a loop with a count or over an array, behind its first word. -/
def readFor (fuel : Nat) (cursor : Cursor) : Except Complaint (Action × Cursor) :=
  match fuel with
  | 0 => .error cursor.fault
  | fuel + 1 => do
    let cursor ← cursor.expect "("
    let body (cursor : Cursor) : Except Complaint (Action × Cursor) :=
      if cursor.mark == ";" then .ok (.block [], cursor.past) else readAction fuel cursor.skipLines
    let ahead : List Token := cursor.rest.map fun placed => placed.token
    match ahead with
    | .name name :: .keyword "in" :: .name array :: .mark ")" :: _ =>
      let (action, cursor) ← body { cursor with rest := cursor.rest.drop 4 }
      .ok (.each name array action, cursor)
    | _ =>
      let (start, cursor) ←
        if cursor.mark == ";" then pure (Action.block [], cursor) else readSimple fuel cursor
      let cursor ← cursor.expect ";"
      let cursor := cursor.skipLines
      let (test, cursor) ←
        if cursor.mark == ";" then pure (none, cursor)
        else do
          let (test, cursor) ← readTerm fuel {} cursor
          pure (some test, cursor)
      let cursor ← cursor.expect ";"
      let cursor := cursor.skipLines
      let (step, cursor) ←
        if cursor.mark == ")" then pure (Action.block [], cursor) else readSimple fuel cursor
      let cursor ← cursor.expect ")"
      let (action, cursor) ← body cursor
      .ok (.counted start test step action, cursor)

/-- Reads statements between braces. -/
def readBlock (fuel : Nat) (cursor : Cursor) : Except Complaint (Action × Cursor) :=
  match fuel with
  | 0 => .error cursor.fault
  | fuel + 1 => do
    let cursor ← cursor.expect "\x7b"
    let (actions, cursor) ← readActions fuel { cursor with braces := cursor.braces + 1 }
    .ok (.block actions, cursor)

/-- Reads statements up to the closing brace, and passes that. -/
def readActions (fuel : Nat) (cursor : Cursor) : Except Complaint (List Action × Cursor) :=
  match fuel with
  | 0 => .error cursor.fault
  | fuel + 1 => do
    let cursor := cursor.skipEnds
    if cursor.mark == "\x7d" then .ok ([], { cursor.past with braces := cursor.braces - 1 })
    else
      let (action, cursor) ← readAction fuel cursor
      let (more, cursor) ← readActions fuel cursor
      .ok (action :: more, cursor)

end

/-! ## Programs -/

/-- Reads the parameters of a function. -/
def readParameters : (fuel : Nat) → Cursor → Except Complaint (List String × Cursor)
  | 0, cursor => .error cursor.fault
  | fuel + 1, cursor =>
    match cursor.token? with
    | some (.mark ")") => .ok ([], cursor.past)
    | some (.name name) => do
      let cursor := cursor.past
      if cursor.mark == "," then
        let (more, cursor) ← readParameters fuel cursor.past.skipLines
        .ok (name :: more, cursor)
      else
        let cursor ← cursor.expect ")"
        .ok ([name], cursor)
    | _ => .error cursor.fault

/-- Reads the action of a rule; without one the record is printed. -/
def readRuleAction (fuel : Nat) (cursor : Cursor) : Except Complaint (Action × Cursor) :=
  if cursor.mark == "\x7b" then readBlock fuel cursor
  else if endsStatement cursor.rest && cursor.mark != "\x7d" then .ok (.print [] none, cursor)
  else .error cursor.fault

/-- Reads the rules and functions of a program. `fuel` is more than the number of tokens. -/
def readItems : (fuel : Nat) → Program → Cursor → Except Complaint Program
  | 0, program, _ => .ok program
  | fuel + 1, program, cursor => do
    let cursor := { cursor.skipEnds with inFunction := false, inRule := true }
    let depth := 16 * cursor.rest.length + 64
    let withRule (pattern : Pattern) (cursor : Cursor) : Except Complaint Program := do
      let (action, cursor) ← readRuleAction depth cursor
      readItems fuel { program with rules := program.rules ++ [{ pattern, action }] } cursor
    match cursor.token? with
    | none => .ok program
    | some (.keyword "BEGIN") =>
      if cursor.past.mark == "\x7b" then withRule .atStart { cursor.past with inRule := false }
      else .error cursor.past.fault
    | some (.keyword "END") =>
      if cursor.past.mark == "\x7b" then withRule .atEnd { cursor.past with inRule := false }
      else .error cursor.past.fault
    | some (.keyword "function") | some (.keyword "func") =>
      match cursor.past.token? with
      | some (.name name) | some (.call name) =>
        let cursor ← cursor.past.past.expect "("
        let (parameters, cursor) ← readParameters depth cursor
        let (body, cursor) ← readBlock depth { cursor.skipLines with inFunction := true }
        readItems fuel
          { program with functions := program.functions ++ [(name, { parameters := parameters, body := body })] } cursor
      | _ => .error cursor.past.fault
    | some (.mark "\x7b") => withRule .always cursor
    | _ =>
      let (first, cursor) ← readTerm depth {} cursor
      if cursor.mark == "," then
        let (last, cursor) ← readTerm depth {} cursor.past.skipLines
        withRule (.between first last) cursor
      else withRule (.where first) cursor

/-! ## Calls -/

mutual

/-- The functions that a term calls. -/
def Term.calls : Term → List String
  | .element _ terms => termsCalls terms
  | .field inner | .not inner | .signed _ inner | .stepped _ _ inner => inner.calls
  | .assign _ a b | .both a b | .either a b | .matches _ a b | .related _ a b | .joined a b
  | .applied _ a b => a.calls ++ b.calls
  | .choice a b c => a.calls ++ b.calls ++ c.calls
  | .isMember terms _ => termsCalls terms
  | .call name terms => name :: termsCalls terms
  | .builtin _ terms => termsCalls terms
  | .line _ source target => optionCalls source ++ optionCalls target
  | _ => []

/-- The functions that terms call. -/
def termsCalls : List Term → List String
  | [] => []
  | term :: rest => term.calls ++ termsCalls rest

/-- The functions that a term calls, if there is one. -/
def optionCalls : Option Term → List String
  | none => []
  | some term => term.calls

end

mutual

/-- The functions that a statement calls. -/
def Action.calls : Action → List String
  | .value term => term.calls
  | .print terms goal | .format terms goal =>
    termsCalls terms ++ match goal with
      | some (_, term) => term.calls
      | none => []
  | .conditional test yes no => test.calls ++ yes.calls ++ no.calls
  | .loop test body => test.calls ++ body.calls
  | .doLoop body test => body.calls ++ test.calls
  | .counted start test step body =>
    start.calls ++ optionCalls test ++ step.calls ++ body.calls
  | .each _ _ body => body.calls
  | .block actions => actionsCalls actions
  | .leave value | .give value => optionCalls value
  | .delete _ (some terms) => termsCalls terms
  | _ => []

/-- The functions that statements call. -/
def actionsCalls : List Action → List String
  | [] => []
  | action :: rest => action.calls ++ actionsCalls rest

end

/-- The functions that a program calls. -/
def Program.calls (program : Program) : List String :=
  (program.rules.flatMap fun rule =>
    (match rule.pattern with
      | .where test => test.calls
      | .between first last => first.calls ++ last.calls
      | _ => []) ++ rule.action.calls) ++
    program.functions.flatMap fun (_, function) => function.body.calls

/-- Reads a program, or gives all the complaints about it. -/
def readProgram (text : String) : Except (List Complaint) Program :=
  let characters := text.toList
  let lastLine := characters.count '\n' + 2
  match tokens 1 true (characters.length + 1) characters with
  | .error complaint => .error [complaint]
  | .ok found =>
    let (surplus, rest) := balanced 0 0 found
    let leftOpen := openParentheses rest
    match readItems (rest.length + 2) {} { rest, lastLine, leftOpen } with
    | .error (fault, line) =>
      let ended : List Complaint :=
        if openBraces rest > 0 && fault != .missingBrace then [(.missingBrace, lastLine)] else []
      .error (surplus ++ (fault, line) :: ended)
    | .ok program =>
      if !surplus.isEmpty then .error surplus
      else
        match program.calls.find? fun name => (program.functions.lookup name).isNone with
        | some name => .error [(.undefined name, lastLine)]
        | none => .ok program

end RunMeter.Shell.Scan
