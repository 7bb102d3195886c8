import RunMeter.Number.Decimal
import RunMeter.Shell.Regex.Basic

/-!
# Reading regular expressions

Regular expressions are written in two dialects. In the basic one most operators are behind a
backslash, and a star at the start stands for itself; in the extended one the operators stand alone.
Sets between brackets are written alike in both.
-/

set_option autoImplicit false

namespace RunMeter.Shell

/-- How an expression is written. -/
structure RegexDialect where
  isExtended : Bool := false
  ignoresCase : Bool := false
  /-- Whether backslashes begin escapes in sets and elsewhere, such as one for a line end. -/
  hasEscapes : Bool := false
  /-- Whether every line of a text has a start and an end of its own. -/
  linesApart : Bool := false
deriving DecidableEq, Repr

/-- Why an expression cannot be read. -/
inductive RegexFault
  | unmatchedBracket
  | unmatchedOpen
  | unmatchedClose
  | unmatchedBrace
  | badBrace
  | badRange
  | badClass
  | badRepeat
  | badReference
  | badCollation
  | trailingBackslash
  /-- Nothing follows an opening bracket. -/
  | openEnd
deriving DecidableEq, Repr

/-- The wording of a fault. -/
def RegexFault.message : RegexFault → String
  | .unmatchedBracket => "Unmatched [, [^, [:, [., or [="
  | .unmatchedOpen => "Unmatched ( or \\("
  | .unmatchedClose => "Unmatched ) or \\)"
  | .unmatchedBrace => "Unmatched \\\x7b"
  | .badBrace => "Invalid content of \\\x7b\\\x7d"
  | .badRange => "Invalid range end"
  | .badClass => "Invalid character class name"
  | .badRepeat => "Invalid preceding regular expression"
  | .badReference => "Invalid back reference"
  | .badCollation => "Invalid collation character"
  | .trailingBackslash => "Trailing backslash"
  | .openEnd => "Invalid regular expression"

namespace Regex

/-- The ranges of a named class. -/
def classRanges? (name : String) : Option (List (Char × Char)) :=
  match name with
  | "alnum" => some [('0', '9'), ('A', 'Z'), ('a', 'z')]
  | "alpha" => some [('A', 'Z'), ('a', 'z')]
  | "blank" => some [(' ', ' '), ('\t', '\t')]
  | "cntrl" => some [(Char.ofNat 0, '\x1f'), ('\x7f', '\x7f')]
  | "digit" => some [('0', '9')]
  | "graph" => some [('!', '~')]
  | "lower" => some [('a', 'z')]
  | "print" => some [(' ', '~')]
  | "punct" => some [('!', '/'), (':', '@'), ('[', '\x60'), ('\x7b', '~')]
  | "space" => some [('\t', '\r'), (' ', ' ')]
  | "upper" => some [('A', 'Z')]
  | "xdigit" => some [('0', '9'), ('A', 'F'), ('a', 'f')]
  | _ => none

/-- The ranges of word characters. -/
def wordRanges : List (Char × Char) := [('0', '9'), ('A', 'Z'), ('_', '_'), ('a', 'z')]

/-- Ranges with the letters of the other case. -/
def withBothCases (ranges : List (Char × Char)) : List (Char × Char) :=
  let letters := (List.range 26).flatMap fun i =>
    let lower := Char.ofNat (97 + i)
    let upper := Char.ofNat (65 + i)
    if ranges.any fun (low, high) => (low ≤ lower && lower ≤ high) || (low ≤ upper && upper ≤ high)
    then [(lower, lower), (upper, upper)] else []
  ranges ++ letters

/-- The character of an escape behind a backslash. -/
def escaped? (c : Char) : Option Char :=
  match c with
  | 'a' => some '\x07'
  | 'f' => some '\x0c'
  | 'n' => some '\n'
  | 'r' => some '\r'
  | 't' => some '\t'
  | 'v' => some '\x0b'
  | _ => none

/-- The character that a number in an escape stands for, which is hexadecimal, octal or decimal, or
the control character of a letter, and what follows. -/
def numericEscape? (text : List Char) : Option (Char × List Char) :=
  let digit? (c : Char) : Option Nat :=
    if c.isDigit then some (c.toNat - 48)
    else if 'a' ≤ c && c ≤ 'f' then some (c.toNat - 87)
    else if 'A' ≤ c && c ≤ 'F' then some (c.toNat - 55)
    else none
  let inBase (base count : Nat) (rest : List Char) : Option (Char × List Char) :=
    let digits := (rest.take count).takeWhile fun c => (digit? c).any (· < base)
    if digits.isEmpty then none
    else
      let n := digits.foldl (fun n c => n * base + (digit? c).getD 0) 0
      some (Char.ofNat (n % 256), rest.drop digits.length)
  match text with
  | 'x' :: rest => inBase 16 2 rest
  | 'o' :: rest => inBase 8 3 rest
  | 'd' :: rest => inBase 10 3 rest
  | 'c' :: c :: rest => some (Char.ofNat (c.toUpper.toNat ^^^ 64), rest)
  | _ => none

/-- The ranges of a set up to its closing bracket, and what follows. `isFirst` is true where a closing
bracket still stands for itself. -/
def setRanges (dialect : RegexDialect) : (fuel : Nat) → (isFirst : Bool) → List Char →
    Except RegexFault (List (Char × Char) × List Char)
  | 0, _, _ => .error .unmatchedBracket
  | fuel + 1, isFirst, text =>
    match text with
    | [] => .error .unmatchedBracket
    | '[' :: ':' :: rest => do
      let name := rest.takeWhile fun c => c != ':' && c != ']'
      match rest.drop name.length with
      | ':' :: ']' :: after =>
        match classRanges? (String.ofList name) with
        | none => .error .badClass
        | some ranges => do
          let (more, after) ← setRanges dialect fuel false after
          .ok (ranges ++ more, after)
      | _ => .error .unmatchedBracket
    | '[' :: '=' :: c :: '=' :: ']' :: after => do
      let (more, after) ← setRanges dialect fuel false after
      .ok ((c, c) :: more, after)
    | '[' :: '.' :: c :: '.' :: ']' :: after => do
      let (more, after) ← setRanges dialect fuel false after
      .ok ((c, c) :: more, after)
    | '[' :: '.' :: _ => .error .badCollation
    | '[' :: '=' :: _ => .error .badCollation
    | c :: rest =>
      if c == ']' && !isFirst then .ok ([], rest)
      else do
        let (low, rest) := match c, rest with
          | '\\', d :: after =>
            if dialect.hasEscapes then
              match escaped? d with
              | some e => (e, after)
              | none => if d == '\\' || d == ']' || d == '/' || d == '"' then (d, after) else (c, rest)
            else (c, rest)
          | c, rest => (c, rest)
        match rest with
        | '-' :: high :: after =>
          if high == ']' then do
            let (more, after) ← setRanges dialect fuel false rest
            .ok ((low, low) :: more, after)
          else
            let (high, after) := match high, after with
              | '[', '.' :: d :: '.' :: ']' :: after => (d, after)
              | high, after => (high, after)
            if high < low then .error .badRange
            else do
              let (more, after) ← setRanges dialect fuel false after
              .ok ((low, high) :: more, after)
        | _ => do
          let (more, after) ← setRanges dialect fuel false rest
          .ok ((low, low) :: more, after)

/-- A character that stands for itself. -/
def literal (dialect : RegexDialect) (c : Char) : Regex := ofText dialect.ignoresCase [c]

/-- A position in an expression: what is ahead, and how many groups have begun and ended. -/
structure RegexCursor where
  rest : List Char
  begun : Nat := 0
  ended : List Nat := []

/-- The bounds of a repetition behind its opening brace, and what follows its closing one. -/
def bounds? (isExtended : Bool) (text : List Char) :
    Except RegexFault (Option (Nat × Option Nat × List Char)) :=
  let low := text.takeWhile Char.isDigit
  let close (least : Nat) (most : Option Nat) (rest : List Char) :
      Except RegexFault (Option (Nat × Option Nat × List Char)) :=
    let after? := if isExtended then
        match rest with
        | '\x7d' :: after => some after
        | _ => none
      else
        match rest with
        | '\\' :: '\x7d' :: after => some after
        | _ => none
    match after? with
    | some after =>
      if most.any (· < least) || least > 32767 || most.any (· > 32767) then .error .badBrace
      else .ok (some (least, most, after))
    | none =>
      if isExtended then .ok none
      else if rest.isEmpty then .error .unmatchedBrace else .error .badBrace
  match text.drop low.length with
  | ',' :: rest =>
    let high := rest.takeWhile Char.isDigit
    let rest := rest.drop high.length
    close (Decimal.value low) (if high.isEmpty then none else some (Decimal.value high)) rest
  | rest =>
    if low.isEmpty then
      if isExtended then .ok none
      else if rest.isEmpty then .error .unmatchedBrace else .error .badBrace
    else close (Decimal.value low) (some (Decimal.value low)) rest

mutual

/-- Reads alternatives up to the end or a closing parenthesis. -/
def alternatives (dialect : RegexDialect) (fuel depth : Nat) (cursor : RegexCursor) :
    Except RegexFault (Regex × RegexCursor) := do
  match fuel with
  | 0 => .ok (.empty, cursor)
  | fuel + 1 =>
    let (first, cursor) ← branch dialect fuel depth true .empty cursor
    let rest? := match dialect.isExtended, cursor.rest with
      | true, '|' :: rest => some rest
      | false, '\\' :: '|' :: rest => some rest
      | _, _ => none
    match rest? with
    | some rest => do
      let (second, cursor) ← alternatives dialect fuel depth { cursor with rest }
      .ok (.either first second, cursor)
    | none => .ok (first, cursor)

/-- Reads pieces one after another. `before` is what was read already. -/
def branch (dialect : RegexDialect) (fuel depth : Nat) (isFirst : Bool) (before : Regex)
    (cursor : RegexCursor) : Except RegexFault (Regex × RegexCursor) := do
  match fuel with
  | 0 => .ok (before, cursor)
  | fuel + 1 =>
    let join (piece : Regex) : Regex := match before with
      | .empty => piece
      | before => .seq before piece
    let stops := match dialect.isExtended, cursor.rest with
      | _, [] => true
      | true, '|' :: _ => true
      | true, ')' :: _ => depth > 0
      | false, '\\' :: '|' :: _ => true
      | false, '\\' :: ')' :: _ => true
      | _, _ => false
    if stops then .ok (before, cursor)
    else do
      let (piece, cursor) ← atom dialect fuel depth isFirst cursor
      let isAnchor := match piece with
        | .border .textStart => true
        | _ => false
      let (piece, cursor) ←
        if isAnchor && !dialect.isExtended then pure (piece, cursor)
        else repeated dialect fuel piece cursor
      branch dialect fuel depth (isFirst && isAnchor) (join piece) cursor

/-- Reads the repetitions behind a piece. -/
def repeated (dialect : RegexDialect) (fuel : Nat) (piece : Regex) (cursor : RegexCursor) :
    Except RegexFault (Regex × RegexCursor) := do
  match fuel with
  | 0 => .ok (piece, cursor)
  | fuel + 1 =>
    let again (least : Nat) (most : Option Nat) (rest : List Char) :
        Except RegexFault (Regex × RegexCursor) :=
      repeated dialect fuel (.many piece least most) { cursor with rest }
    match dialect.isExtended, cursor.rest with
    | _, '*' :: rest => again 0 none rest
    | true, '+' :: rest => again 1 none rest
    | true, '?' :: rest => again 0 (some 1) rest
    | false, '\\' :: '+' :: rest => again 1 none rest
    | false, '\\' :: '?' :: rest => again 0 (some 1) rest
    | true, '\x7b' :: rest => do
      match ← bounds? true rest with
      | some (least, most, rest) => again least most rest
      | none => .ok (piece, cursor)
    | false, '\\' :: '\x7b' :: rest => do
      match ← bounds? false rest with
      | some (least, most, rest) => again least most rest
      | none => .ok (piece, cursor)
    | _, _ => .ok (piece, cursor)

/-- Reads one piece without its repetitions. -/
def atom (dialect : RegexDialect) (fuel depth : Nat) (isFirst : Bool) (cursor : RegexCursor) :
    Except RegexFault (Regex × RegexCursor) := do
  match fuel with
  | 0 => .ok (.empty, cursor)
  | fuel + 1 =>
    let one (regex : Regex) (rest : List Char) : Except RegexFault (Regex × RegexCursor) :=
      .ok (regex, { cursor with rest })
    let inGroup (rest : List Char) : Except RegexFault (Regex × RegexCursor) := do
      let number := cursor.begun + 1
      let (inner, cursor) ←
        alternatives dialect fuel (depth + 1) { cursor with rest, begun := number }
      let rest? := match dialect.isExtended, cursor.rest with
        | true, ')' :: rest => some rest
        | false, '\\' :: ')' :: rest => some rest
        | _, _ => none
      match rest? with
      | some rest => .ok (.group number inner, { cursor with rest, ended := number :: cursor.ended })
      | none => .error .unmatchedOpen
    match cursor.rest with
    | [] => .ok (.empty, cursor)
    | '.' :: rest => one (.one true []) rest
    | ['['] => .error .openEnd
    | '[' :: '^' :: rest => do
      let (ranges, rest) ← setRanges dialect (rest.length + 1) true rest
      one (.one true (if dialect.ignoresCase then withBothCases ranges else ranges)) rest
    | '[' :: rest => do
      let (ranges, rest) ← setRanges dialect (rest.length + 1) true rest
      one (.one false (if dialect.ignoresCase then withBothCases ranges else ranges)) rest
    | '^' :: rest =>
      if dialect.isExtended || isFirst then
        one (.border (if dialect.linesApart then .lineStart else .textStart)) rest
      else one (literal dialect '^') rest
    | '$' :: rest =>
      let isLast := dialect.isExtended || match rest with
        | [] => true
        | '\\' :: ')' :: _ => true
        | '\\' :: '|' :: _ => true
        | _ => false
      if isLast then one (.border (if dialect.linesApart then .lineEnd else .textEnd)) rest
      else one (literal dialect '$') rest
    | '*' :: rest =>
      if dialect.isExtended then
        if isFirst then one .empty rest else one (literal dialect '*') rest
      else one (literal dialect '*') rest
    | '(' :: rest => if dialect.isExtended then inGroup rest else one (literal dialect '(') rest
    | ')' :: rest => one (literal dialect ')') rest
    | '+' :: rest =>
      if dialect.isExtended && isFirst then one .empty rest else one (literal dialect '+') rest
    | '?' :: rest =>
      if dialect.isExtended && isFirst then one .empty rest else one (literal dialect '?') rest
    | '\\' :: [] => .error .trailingBackslash
    | '\\' :: c :: rest =>
      match c with
      | '(' => if dialect.isExtended then one (literal dialect '(') rest else inGroup rest
      | ')' =>
        if dialect.isExtended then one (literal dialect ')') rest else .error .unmatchedClose
      | '\x7b' =>
        if dialect.isExtended then one (literal dialect '\x7b') rest
        else if isFirst then .error .badRepeat else one (literal dialect '\x7b') rest
      | 'w' => one (.one false wordRanges) rest
      | 'W' => one (.one true wordRanges) rest
      | 's' => one (.one false [('\t', '\r'), (' ', ' ')]) rest
      | 'S' => one (.one true [('\t', '\r'), (' ', ' ')]) rest
      | 'b' => one (.border .wordBorder) rest
      | 'B' => one (.border .noBorder) rest
      | '<' => one (.border .wordStart) rest
      | '>' => one (.border .wordEnd) rest
      | '\x60' => one (.border .textStart) rest
      | '\'' => one (.border .textEnd) rest
      | c =>
        if '1' ≤ c && c ≤ '9' then
          let number := c.toNat - 48
          if cursor.ended.contains number then one (.again number) rest else .error .badReference
        else
          match if dialect.hasEscapes then numericEscape? (c :: rest) else none with
          | some (e, rest) => one (literal dialect e) rest
          | none =>
            match if dialect.hasEscapes then escaped? c else none with
            | some e => one (literal dialect e) rest
            | none => one (literal dialect c) rest
    | c :: rest => one (literal dialect c) rest

end

/-- Reads an expression. -/
def read (dialect : RegexDialect) (text : String) : Except RegexFault Regex := do
  let characters := text.toList
  let (regex, cursor) ← alternatives dialect (6 * characters.length + 24) 0 { rest := characters }
  match cursor.rest with
  | [] => .ok regex
  | _ => .error .unmatchedClose

end Regex

end RunMeter.Shell
