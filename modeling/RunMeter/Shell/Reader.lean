import RunMeter.Shell.Cursor
import RunMeter.Shell.Word

/-!
# Reading scripts

Scripts are read from the front, one function per kind of phrase. Every function takes a bound on the
depth of what it reads; `Cursor.nextLine` provides one that no script reaches, since each step down has
consumed a character. A script is read a line at a time, so that what comes before a fault still
runs.
-/

set_option autoImplicit false

namespace RunMeter.Shell

/-- The commands whose words may be assignments. -/
def declaringCommands (dialect : Dialect) : List String :=
  ["alias", "export", "local", "readonly"] ++
    match dialect with
    | .plain => []
    | .extended => ["declare", "typeset"]

/-- Reading moves a position, or fails in a line. -/
abbrev Reading := StateT Cursor (Except (Nat × ScriptFault))

/-- Where a row of word parts stands, which decides where it ends and what quotes mean in it. -/
inductive Surroundings
  | bare
  /-- The value of an assignment. -/
  | assigned
  /-- Between double quotes. -/
  | quoted
  /-- Within the braces of a parameter. -/
  | braced (isQuoted : Bool)
  /-- Within an arithmetic expression, so many parentheses deep. -/
  | sum (depth : Nat)
  /-- In a text that is given line by line. -/
  | here
  /-- Within the braces of a parameter, up to a character if that comes first. -/
  | upTo (stop : Char)
  /-- Between square brackets behind a name. -/
  | subscript
  /-- What something has to fit in a condition, so many parentheses deep. -/
  | fitting (depth : Nat)
deriving DecidableEq, Repr

namespace Surroundings

/-- Whether plain text counts as quoted here. -/
def isQuoted : Surroundings → Bool
  | .bare | .assigned | .upTo _ | .subscript | .fitting _ => false
  | .braced isQuoted => isQuoted
  | .quoted | .sum _ | .here => true

/-- Whether the row ends before the text ahead. -/
def endsBefore (surroundings : Surroundings) (ahead : List Char) : Bool :=
  match surroundings, ahead with
  | .bare, c :: _ => isDelimiter c
  | .assigned, c :: _ => isDelimiter c
  | .quoted, c :: _ => c == '"'
  | .braced _, c :: _ => c == '\x7d'
  | .sum 0, ')' :: ')' :: _ => true
  | .upTo stop, c :: _ => c == stop || c == '\x7d'
  | .subscript, c :: _ => c == ']'
  | .fitting 0, '&' :: '&' :: _ => true
  | .fitting 0, '|' :: '|' :: _ => true
  | .fitting 0, c :: _ => isBlank c || c == '\n' || c == ')' || c == ';'
  | _, _ => false

/-- The surroundings after one plain character. -/
def after (surroundings : Surroundings) (c : Char) : Surroundings :=
  match surroundings with
  | .sum depth => if c == '(' then .sum (depth + 1) else if c == ')' then .sum (depth - 1) else .sum depth
  | .fitting depth =>
    if c == '(' then .fitting (depth + 1) else if c == ')' then .fitting (depth - 1) else .fitting depth
  | other => other

/-- Whether a backslash takes the meaning from a character here. -/
def escapes (surroundings : Surroundings) (c : Char) : Bool :=
  match surroundings with
  | .bare | .assigned | .braced false | .upTo _ | .subscript | .fitting _ => true
  | .braced true => c == '$' || c == '\x60' || c == '"' || c == '\\' || c == '\x7d'
  | .quoted | .sum _ => c == '$' || c == '\x60' || c == '"' || c == '\\'
  | .here => c == '$' || c == '\x60' || c == '\\'

/-- What is wrong if the script ends within the row. -/
def missingEnd? : Surroundings → Option ScriptFault
  | .bare | .assigned | .here | .fitting _ => none
  | .quoted => some (.unterminatedQuote '"')
  | .braced _ | .upTo _ | .subscript => some .unclosedBrace
  | .sum _ => some .unclosedSum

/-- The user whose home directory is meant by what is ahead, which follows the given parts. -/
def home? (surroundings : Surroundings) (isStart : Bool) (ahead : List Char) : Option String :=
  let stops (c : Char) : Bool :=
    c == '/' || (surroundings == .assigned && c == ':') ||
      match surroundings with
      | .braced _ => c == '\x7d'
      | _ => isDelimiter c
  let isPlace := isStart && match surroundings with
    | .bare | .assigned | .braced false | .fitting _ => true
    | _ => false
  match ahead with
  | '~' :: rest =>
    let user := rest.takeWhile (!stops ·)
    if isPlace && !user.any Cursor.quotes then some (String.ofList user) else none
  | _ => none

end Surroundings

/-- Whether the value of an assignment goes on after a colon that is not quoted. -/
def endsInColon (done : List WordPart) : Bool :=
  match done with
  | .text before false :: _ => before.endsWith ":"
  | _ => false

/-- Whether a word goes on after a name and an equals sign. -/
def endsInEquals (done : List WordPart) : Bool :=
  match done with
  | [.text before false] => before.endsWith "=" && isName (before.dropEnd 1).toString
  | _ => false

/-- Appends plain text to a row of parts that is kept in reverse. -/
def pushText (text : String) (isQuoted : Bool) (done : List WordPart) : List WordPart :=
  match done with
  | .text before wasQuoted :: rest =>
    if wasQuoted == isQuoted then .text (before ++ text) isQuoted :: rest
    else .text text isQuoted :: done
  | _ => .text text isQuoted :: done

/-- The text up to a backquote, and what follows it. A backslash protects the next character if it
is one of those that `isProtected` names. -/
def backquoted? (isProtected : Char → Bool) (collected : List Char) :
    List Char → Option (List Char × List Char)
  | '\x60' :: rest => some (collected.reverse, rest)
  | '\\' :: c :: rest =>
    if isProtected c then backquoted? isProtected (c :: collected) rest
    else backquoted? isProtected (c :: '\\' :: collected) rest
  | c :: rest => backquoted? isProtected (c :: collected) rest
  | [] => none

/-- The lines before the one that is `stop`, and the text after that. -/
def hereLines (stripsTabs : Bool) (stop : List Char) (lines : List (List Char)) :
    List (List Char) × List (List Char) :=
  let lines' := lines.map fun line => if stripsTabs then line.dropWhile (· == '\t') else line
  let body := lines'.takeWhile (· != stop)
  (body, lines.drop (body.length + 1))

/-- The lines of a text. -/
def splitLines (text : List Char) : List (List Char) :=
  ((String.ofList text).splitOn "\n").map String.toList

/-- The text of a row of parts without their quotes, and whether any was quoted. -/
def delimiterText (word : Word) : String × Bool :=
  word.foldl
    (fun (text, wasQuoted) part =>
      match part with
      | .text more isQuoted => (text ++ more, wasQuoted || isQuoted)
      | _ => (text, wasQuoted))
    ("", false)

/-- Whether two parentheses in a row close the two that stand before a text. -/
def closesSum (depth : Nat) : List Char → Bool
  | [] => false
  | ')' :: rest => if depth = 0 then rest.head? == some ')' else closesSum (depth - 1) rest
  | '(' :: rest => closesSum (depth + 1) rest
  | _ :: rest => closesSum depth rest

/-- How many characters lie before what two parentheses in a row enclose, if they come next. -/
def afterParentheses? (text : List Char) : Option Nat :=
  let blanks := text.takeWhile isBlank
  match text.drop blanks.length with
  | '(' :: '(' :: _ => some (blanks.length + 2)
  | _ => none

/-- What stands before a mark outside of parentheses, and what follows it. -/
def beforeMarkWithin (stop : List Char) (depth : Nat) (done : List Char) :
    List Char → Option (List Char × List Char)
  | [] => none
  | c :: rest =>
    if depth = 0 && stop.isPrefixOf (c :: rest) then
      some (done.reverse, (c :: rest).drop stop.length)
    else
      let depth := if c == '(' then depth + 1 else if c == ')' then depth - 1 else depth
      beforeMarkWithin stop depth (c :: done) rest

/-- What stands before a mark outside of parentheses, and what follows it. -/
def beforeMark (stop text : List Char) : Option (List Char × List Char) :=
  beforeMarkWithin stop 0 [] text

namespace Reading

/-- Fails in the current line. -/
def fault {α : Type} (cause : ScriptFault) : Reading α := fun cursor => .error (cursor.line, cause)

/-- Fails because of what is ahead. -/
def surprise {α : Type} (wanted : Option String) : Reading α := fun cursor =>
  .error (cursor.line, cursor.surprise wanted)

/-- Blames the line in which something began if it never ends. -/
def blamingStart {α : Type} (reading : Reading α) : Reading α := fun cursor =>
  match reading cursor with
  | .error (line, .unterminatedQuote quote) =>
    .error (if cursor.isExtended then cursor.line else line, .unterminatedQuote quote)
  | result => result

/-- Moves over characters. -/
def skip (count : Nat) : Reading Unit := modify (·.advance count)

/-- Skips what separates words. -/
def skipBlanks : Reading Unit := modify Cursor.skipBlanks

/-- Skips what separates commands. -/
def skipBreaks : (fuel : Nat) → Reading Unit
  | 0 => pure ()
  | fuel + 1 => do
    skipBlanks
    match (← get).rest with
    | '\n' :: _ => do
      skip 1
      skipBreaks fuel
    | _ => pure ()

/-- Takes the characters ahead that satisfy a test. -/
def takeWhile (test : Char → Bool) : Reading String := do
  let taken := (← get).rest.takeWhile test
  skip taken.length
  pure (String.ofList taken)

/-- Takes an operator or fails. -/
def expectOperator (operator : String) : Reading Unit := do
  skipBlanks
  if (← get).operator? == some operator then skip operator.length else surprise (some operator)

/-- Takes the name of a parameter between braces, if there is one. -/
def parameterName? : Reading (Option String) := do
  match (← get).rest with
  | c :: _ =>
    if startsName c then some <$> takeWhile continuesName
    else if c.isDigit then some <$> takeWhile Char.isDigit
    else if isSpecialParameter c then do
      skip 1
      pure (some (String.ofList [c]))
    else pure none
  | [] => pure none

/-- Takes the operator after the name of a parameter between braces. -/
def fallback? : Reading (Option (Fallback × Bool)) := do
  let kind? (c : Char) : Option Fallback :=
    match c with
    | '-' => some .word
    | '=' => some .assigned
    | '?' => some .complaint
    | '+' => some .reversed
    | _ => none
  match (← get).rest with
  | ':' :: c :: _ =>
    match kind? c with
    | some kind => do
      skip 2
      pure (some (kind, true))
    | none => pure none
  | c :: _ =>
    match kind? c with
    | some kind => do
      skip 1
      pure (some (kind, false))
    | none => pure none
  | [] => pure none

/-- Takes the operator that cuts a pattern from a parameter. -/
def trim? : Reading (Option (Side × Bool)) := do
  match (← get).rest with
  | '#' :: '#' :: _ => do
    skip 2
    pure (some (.front, true))
  | '%' :: '%' :: _ => do
    skip 2
    pure (some (.back, true))
  | '#' :: _ => do
    skip 1
    pure (some (.front, false))
  | '%' :: _ => do
    skip 1
    pure (some (.back, false))
  | _ => pure none

/-- How a redirection opens its target, from its arrow; `true` if tabs at the start of lines are
dropped. -/
def arrow : Reading (Opening × Nat × Bool) := do
  let take (count : Nat) (opening : Opening) (descriptor : Nat) (stripsTabs : Bool) :
      Reading (Opening × Nat × Bool) := do
    skip count
    pure (opening, descriptor, stripsTabs)
  let cursor ← get
  match cursor.rest with
  | '<' :: '<' :: '-' :: _ => take 3 .here 0 true
  | '<' :: '<' :: _ => take 2 .here 0 false
  | '<' :: '&' :: _ => take 2 .duplicate 0 false
  | '<' :: '>' :: _ => take 2 .readWrite 0 false
  | '<' :: _ => take 1 .read 0 false
  | '>' :: '>' :: _ => take 2 .append 1 false
  | '>' :: '&' :: _ => take 2 .duplicate 1 false
  | '>' :: '|' :: _ => take 2 .overwrite 1 false
  | _ => take 1 .write 1 false

mutual

/-- Reads the parts of a word up to its end. `done` holds the parts before in reverse. -/
def parts (fuel : Nat) (surroundings : Surroundings) (done : List WordPart) : Reading Word := do
  match fuel with
  | 0 => surprise none
  | fuel + 1 =>
    let cursor ← get
    match cursor.rest with
    | [] =>
      match surroundings.missingEnd? with
      | some cause => fault cause
      | none => pure done.reverse
    | c :: ahead =>
      let isStart := done.isEmpty || (surroundings == .assigned && endsInColon done) ||
        (cursor.isExtended && surroundings == .bare && endsInEquals done)
      if surroundings.endsBefore cursor.rest then pure done.reverse
      else if let some user := surroundings.home? isStart cursor.rest then do
        skip (user.length + 1)
        parts fuel surroundings (.home user :: done)
      else if c == '\\' then
        match ahead with
        | [] => do
          skip 1
          parts fuel surroundings (pushText "\\" true done)
        | '\n' :: _ => do
          skip 2
          parts fuel surroundings done
        | next :: _ =>
          if surroundings.escapes next then do
            skip 2
            parts fuel surroundings (pushText (String.ofList [next]) true done)
          else do
            skip 1
            parts fuel surroundings (pushText "\\" surroundings.isQuoted done)
      else if c == '\'' && !surroundings.isQuoted then do
        skip 1
        let text ← takeWhile (· != '\'')
        if (← get).rest.isEmpty then
          if cursor.isExtended then fun _ => .error (cursor.line, .unterminatedQuote '\'')
          else fault (.unterminatedQuote '\'')
        else do
          skip 1
          parts fuel surroundings (pushText text true done)
      else if c == '"' then
        match surroundings with
        | .here => do
          skip 1
          parts fuel surroundings (pushText "\"" true done)
        | .sum _ => do
          skip 1
          parts fuel surroundings done
        | _ => do
          skip 1
          let inner ← blamingStart (parts fuel .quoted [.text "" true])
          skip 1
          parts fuel surroundings (inner.reverse ++ done)
      else if c == '$' then do
        let part ← dollar fuel surroundings
        match part with
        | .text text isQuoted => parts fuel surroundings (pushText text isQuoted done)
        | part => parts fuel surroundings (part :: done)
      else if c == '\x60' then
        let isProtected (c : Char) : Bool :=
          c == '\x60' || c == '\\' || c == '$' || (surroundings == .quoted && c == '"')
        match backquoted? isProtected [] ahead with
        | none => fault .unterminatedSubstitution
        | some (inner, rest) => do
          set { cursor with rest := inner, taken := 0 }
          let script ← lines fuel
          set { cursor with line := cursor.line + inner.count '\n', rest }
          parts fuel surroundings (.output script surroundings.isQuoted :: done)
      else do
        skip 1
        parts fuel (surroundings.after c) (pushText (String.ofList [c]) surroundings.isQuoted done)

/-- Reads what a dollar sign begins. -/
def dollar (fuel : Nat) (surroundings : Surroundings) : Reading WordPart := do
  match fuel with
  | 0 => surprise none
  | fuel + 1 =>
    let isQuoted := surroundings.isQuoted
    skip 1
    match (← get).rest with
    | '(' :: '(' :: _ => do
      skip 2
      let expression ← parts fuel (.sum 0) []
      skip 2
      pure (.sum expression isQuoted)
    | '(' :: _ => do
      skip 1
      let script ← enclosed fuel
      pure (.output script isQuoted)
    | '\'' :: rest =>
      if (← get).isExtended && !isQuoted then
        match namedCharacters (rest.length + 1) rest with
        | some (characters, after) => do
          skip (rest.length + 1 - after.length)
          pure (.text (String.ofList characters) true)
        | none => fault (.unterminatedQuote '\'')
      else pure (.text "$" isQuoted)
    | '"' :: _ =>
      pure (.text (if (← get).isExtended && !isQuoted then "" else "$") isQuoted)
    | '\x7b' :: _ => do
      skip 1
      let reading ← braced fuel isQuoted
      if (← get).rest.isEmpty then fault .unclosedBrace
      else do
        skip 1
        pure (.parameter reading.1 reading.2 isQuoted)
    | c :: _ =>
      if startsName c then do
        let name ← takeWhile continuesName
        pure (.parameter name .value isQuoted)
      else if c.isDigit || isSpecialParameter c then do
        skip 1
        pure (.parameter (String.ofList [c]) .value isQuoted)
      else pure (.text "$" isQuoted)
    | [] => pure (.text "$" isQuoted)

/-- Reads a script between parentheses, the first of which has been read. -/
def enclosed (fuel : Nat) : Reading (List Statement) := do
  match fuel with
  | 0 => surprise none
  | fuel + 1 =>
    let script ← list fuel
    let cursor ← get
    if cursor.isExtended && cursor.rest.isEmpty then fault .unclosedParenthesis
    else do
      expectOperator ")"
      pure script

/-- Reads a parameter between braces, up to the closing one. -/
def braced (fuel : Nat) (isQuoted : Bool) : Reading (String × ParameterReading) := do
  match fuel with
  | 0 => surprise none
  | fuel + 1 =>
    let cursor ← get
    let asksLength := match cursor.rest with
      | '#' :: c :: _ => startsName c || c.isDigit || (isSpecialParameter c && c != '-' && c != '?')
      | _ => false
    let asksName := cursor.isExtended &&
      match cursor.rest with
      | '!' :: c :: _ => startsName c || c.isDigit
      | _ => false
    let improper : Reading (String × ParameterReading) := do
      let _ ← parts fuel (.braced isQuoted) []
      let length := cursor.rest.length - (← get).rest.length
      pure ("", .improper (String.ofList (cursor.rest.take length)))
    if asksLength then do
      skip 1
      let name ← parameterName?
      if (← get).isExtended && (← get).rest.head? == some '[' then do
        let reading ← subscripted fuel (pure .length)
        pure (name.getD "", reading)
      else if (← get).rest.head? == some '\x7d' then pure (name.getD "", .length)
      else improper
    else if asksName then do
      skip 1
      let name := (← parameterName?).getD ""
      match (← get).rest with
      | '[' :: '@' :: ']' :: '\x7d' :: _ => do
        skip 3
        pure (name, .subscripts false)
      | '[' :: '*' :: ']' :: '\x7d' :: _ => do
        skip 3
        pure (name, .subscripts true)
      | '@' :: '\x7d' :: _ => do
        skip 1
        pure (name, .names false)
      | '*' :: '\x7d' :: _ => do
        skip 1
        pure (name, .names true)
      | _ =>
        match ← operation? fuel isQuoted with
        | some reading => pure (name, .named reading)
        | none => improper
    else
      match ← parameterName? with
      | none => improper
      | some name =>
        let found ←
          if cursor.isExtended && (← get).rest.head? == some '[' then
            some <$> subscripted fuel do
              match ← operation? fuel isQuoted with
              | some reading => pure reading
              | none => pure (.improper name)
          else operation? fuel isQuoted
        match found with
        | some reading => pure (name, reading)
        | none => improper

/-- Reads a subscript, and then what is asked of the elements that it means. -/
def subscripted (fuel : Nat) (inner : Reading ParameterReading) : Reading ParameterReading := do
  match fuel with
  | 0 => surprise none
  | fuel + 1 =>
    skip 1
    match (← get).rest with
    | '@' :: ']' :: _ => do
      skip 2
      .elements false <$> inner
    | '*' :: ']' :: _ => do
      skip 2
      .elements true <$> inner
    | _ => do
      let subscript ← parts fuel .subscript []
      if (← get).rest.isEmpty then fault .unclosedBrace
      else do
        skip 1
        .element subscript <$> inner

/-- Reads what is asked of a parameter behind its name, up to the closing brace. -/
def operation? (fuel : Nat) (isQuoted : Bool) : Reading (Option ParameterReading) := do
  match fuel with
  | 0 => surprise none
  | fuel + 1 =>
    let cursor ← get
    if cursor.rest.head? == some '\x7d' then pure (some .value)
    else
      match ← fallback? with
      | some (kind, ofEmpty) => do
        let word ← parts fuel (.braced isQuoted) []
        pure (some (.fallback kind ofEmpty word))
      | none =>
        match ← trim? with
        | some (side, isLongest) => do
          let pattern ← parts fuel (.braced false) []
          pure (some (.trimmed side isLongest pattern))
        | none => if cursor.isExtended then extendedOperation? fuel isQuoted else pure none

/-- Reads what only the extended dialect asks of a parameter. -/
def extendedOperation? (fuel : Nat) (isQuoted : Bool) : Reading (Option ParameterReading) := do
  match fuel with
  | 0 => surprise none
  | fuel + 1 =>
    let replaced (length : Nat) (extent : Extent) : Reading (Option ParameterReading) := do
      skip length
      let pattern ← parts fuel (.upTo '/') []
      if (← get).rest.head? == some '/' then do
        skip 1
        let replacement ← parts fuel (.braced false) []
        pure (some (.replaced extent pattern replacement))
      else pure (some (.replaced extent pattern []))
    let recased (length : Nat) (isUpper isWhole : Bool) : Reading (Option ParameterReading) := do
      skip length
      pure (some (.recased isUpper isWhole))
    match (← get).rest with
    | ':' :: _ => do
      skip 1
      let start ← parts fuel (.upTo ':') []
      if (← get).rest.head? == some ':' then do
        skip 1
        let length ← parts fuel (.braced isQuoted) []
        pure (some (.part start (some length)))
      else pure (some (.part start none))
    | '/' :: '/' :: _ => replaced 2 .every
    | '/' :: '#' :: _ => replaced 2 .atFront
    | '/' :: '%' :: _ => replaced 2 .atBack
    | '/' :: _ => replaced 1 .first
    | '^' :: '^' :: '\x7d' :: _ => recased 2 true true
    | '^' :: '\x7d' :: _ => recased 1 true false
    | ',' :: ',' :: '\x7d' :: _ => recased 2 false true
    | ',' :: '\x7d' :: _ => recased 1 false false
    | '@' :: 'U' :: '\x7d' :: _ => recased 2 true true
    | '@' :: 'u' :: '\x7d' :: _ => recased 2 true false
    | '@' :: 'L' :: '\x7d' :: _ => recased 2 false true
    | '@' :: 'Q' :: '\x7d' :: _ => do
      skip 2
      pure (some .requoted)
    | _ => pure none

/-- Reads a word, if one is ahead. -/
def word? (fuel : Nat) : Reading (Option Word) := do
  match fuel with
  | 0 => surprise none
  | fuel + 1 =>
    skipBlanks
    let cursor ← get
    match cursor.rest with
    | [] => pure none
    | c :: _ =>
      if cursor.feeds then do
        skip 2
        let script ← enclosed fuel
        some <$> parts fuel .bare [.fed script]
      else if isDelimiter c then pure none
      else some <$> parts fuel .bare []

/-- Reads a redirection, which may change more than one descriptor. -/
def redirection (fuel : Nat) : Reading (List Redirection) := do
  match fuel with
  | 0 => surprise none
  | fuel + 1 =>
    let target : Reading Word := do
      match ← word? fuel with
      | none => surprise none
      | some target => pure target
    let both (length : Nat) (opening : Opening) : Reading (List Redirection) := do
      skip length
      let file ← target
      pure [.change 1 opening file, .change 2 .duplicate [.text "1" true]]
    let digits ← takeWhile Char.isDigit
    let cursor ← get
    match cursor.rest, cursor.isExtended with
    | '&' :: '>' :: '>' :: _, true => both 3 .append
    | '&' :: '>' :: _, true => both 2 .write
    | '<' :: '<' :: '<' :: _, true => do
      skip 3
      let text ← target
      pure [.change (digits.toNat?.getD 0) .here (text ++ [.text "\n" true])]
    | _, _ => do
      let (opening, standard, stripsTabs) ← arrow
      let descriptor := digits.toNat?.getD standard
      let target ← target
      if opening == .here then do
        let document ← document fuel stripsTabs target
        pure [.change descriptor .here document]
      else if opening == .duplicate && cursor.isExtended && digits.isEmpty && standard = 1 &&
          ((plainText? target).any fun text => text != "-" && !text.all Char.isDigit) then
        pure [.change 1 .write target, .change 2 .duplicate [.text "1" true]]
      else pure [.change descriptor opening target]

/-- Takes the lines up to one out of the script. -/
def document (fuel : Nat) (stripsTabs : Bool) (target : Word) : Reading Word := do
  match fuel with
  | 0 => surprise none
  | fuel + 1 =>
    let cursor ← get
    let (stop, wasQuoted) := delimiterText target
    let before := cursor.rest.takeWhile (· != '\n')
    let following := splitLines ((cursor.rest.drop before.length).drop 1)
    let (body, rest) := hereLines stripsTabs stop.toList following
    let isLacking := cursor.isExtended && body.length = following.length
    let isClosed := body.length = following.length && (!isLacking || body.getLast? == some [])
    let lines := if isClosed then body else body ++ [[]]
    let text := ['\n'].intercalate lines
    let last := if following.getLast? == some [] then following.length - 1 else following.length
    let warning := (cursor.line + last,
      "here-document at line " ++ toString cursor.line ++ " delimited by end-of-file (wanted \x60" ++
        stop ++ "')")
    let cursor :=
      if isLacking then { cursor with warnings := cursor.warnings ++ [warning] } else cursor
    let after : Cursor :=
      { cursor with
        rest := before ++ '\n' :: ['\n'].intercalate rest
        taken := cursor.taken + body.length + 1 }
    if wasQuoted then do
      set after
      pure [.text (String.ofList text) true]
    else do
      set { cursor with line := cursor.line + 1, rest := text, taken := 0 }
      let document ← parts fuel .here []
      set after
      pure document

/-- Reads the redirections that follow a command. -/
def redirections (fuel : Nat) : Reading (List Redirection) := do
  match fuel with
  | 0 => surprise none
  | fuel + 1 =>
    skipBlanks
    if (← get).redirects then do
      let first ← redirection fuel
      let rest ← redirections fuel
      pure (first ++ rest)
    else pure []

/-- Reads the items of a list up to the closing parenthesis. -/
def items (fuel : Nat) : Reading (List (Option Word × Word)) := do
  match fuel with
  | 0 => surprise none
  | fuel + 1 =>
    skipBreaks fuel
    let cursor ← get
    match cursor.rest with
    | [] => fault .unclosedList
    | ')' :: _ => do
      skip 1
      pure []
    | '[' :: _ => do
      let subscript ← do
        skip 1
        parts fuel .subscript []
      match (← get).rest with
      | ']' :: '=' :: _ => do
        skip 2
        let value ← parts fuel .assigned []
        let rest ← items fuel
        pure ((some subscript, value) :: rest)
      | _ => do
        set cursor
        let word ← parts fuel .bare []
        let rest ← items fuel
        pure ((none, word) :: rest)
    | _ =>
      match ← word? fuel with
      | none => surprise none
      | some word => do
        let rest ← items fuel
        pure ((spreadWord word).map (none, ·) ++ rest)

/-- Reads an assignment of the extended dialect, if one is ahead. -/
def assignment? (fuel : Nat) : Reading (Option Assignment) := do
  match fuel with
  | 0 => surprise none
  | fuel + 1 =>
    let cursor ← get
    let name := String.ofList (cursor.rest.takeWhile continuesName)
    let value (subscript : Option Word) (length : Nat) (appends : Bool) : Reading (Option Assignment) := do
      skip length
      match subscript, (← get).rest with
      | none, '(' :: _ => do
        skip 1
        let items ← items fuel
        pure (some (.many name appends items))
      | subscript, _ => do
        let word ← parts fuel .assigned []
        pure (some (.one name subscript appends word))
    if !isName name then pure none
    else
      match cursor.rest.drop name.length with
      | '=' :: _ => value none (name.length + 1) false
      | '+' :: '=' :: _ => value none (name.length + 2) true
      | '[' :: rest =>
        -- what is between brackets has no blanks unless it is quoted
        if (rest.takeWhile fun c => c != ']' && c != '\n').length = rest.length then pure none
        else do
          skip (name.length + 1)
          let subscript ← parts fuel .subscript []
          match (← get).rest with
          | ']' :: '=' :: _ => value (some subscript) 2 false
          | ']' :: '+' :: '=' :: _ => value (some subscript) 3 true
          | _ => do
            set cursor
            pure none
      | _ => pure none

/-- Reads the rest of a simple command. The lists hold what was read before, in reverse. -/
def simple (fuel line : Nat) (assignments : List Assignment) (words : List Word)
    (changes : List Redirection) (lists : List Assignment) : Reading Statement := do
  match fuel with
  | 0 => surprise none
  | fuel + 1 =>
    skipBlanks
    let begins := words.isEmpty || (← get).nextBeginning.any ((← get).rest.length ≤ ·)
    if begins then modify fun cursor => { cursor with nextBeginning := none }.expanded
    let cursor ← get
    let declares :=
      (words.getLast?.bind plainText?).any (declaringCommands cursor.dialect).contains
    if cursor.redirects then do
      let change ← redirection fuel
      simple fuel line assignments words (change.reverse ++ changes) lists
    else
      match ← assigned? fuel (words.isEmpty || declares) with
      | some assignment =>
        if words.isEmpty then simple fuel line (assignment :: assignments) words changes lists
        else
          match assignment with
          | .many name _ _ =>
            simple fuel line assignments ([.text name true] :: words) changes (assignment :: lists)
          | .one name none appends value =>
            let lead := name ++ (if appends then "+=" else "=")
            let word : Word := [.whole (.text lead false :: value)]
            simple fuel line assignments (word :: words) changes lists
          | assignment => simple fuel line assignments words changes (assignment :: lists)
      | none =>
        match ← word? fuel with
        | some word =>
          let next := (← get).skipBlanks
          if words.isEmpty && assignments.isEmpty && changes.isEmpty && next.rest.head? == some '('
          then
            match plainText? word with
            | none => fault .badFunctionName
            | some name =>
              let isAllowed := cursor.isExtended || (isName name && !specialCommands.contains name)
              if isAllowed then do
                set (next.advance 1)
                expectOperator ")"
                skipBreaks fuel
                let body ← command fuel
                pure (.function name body)
              else fault .badFunctionName
          else
            let spread := if cursor.isExtended then spreadWord word else [word]
            simple fuel line assignments (spread.reverse ++ words) changes lists
        | none =>
          if assignments.isEmpty && words.isEmpty && changes.isEmpty then surprise none
          else
            pure (.simple line assignments.reverse words.reverse changes.reverse lists.reverse)

/-- Reads an assignment, if one is ahead and may stand here. -/
def assigned? (fuel : Nat) (isPlace : Bool) : Reading (Option Assignment) := do
  match fuel with
  | 0 => surprise none
  | fuel + 1 =>
    let cursor ← get
    if !isPlace then pure none
    else if cursor.isExtended then assignment? fuel
    else
      let name := String.ofList (cursor.rest.takeWhile continuesName)
      if isName name && (cursor.rest.drop name.length).head? == some '=' then do
        skip (name.length + 1)
        let value ← parts fuel .assigned []
        pure (some (.one name none false value))
      else pure none

/-- Reads the reserved word that has to come next. -/
def expectWord (fuel : Nat) (wanted : String) : Reading Unit := do
  match fuel with
  | 0 => surprise none
  | fuel + 1 =>
    skipBreaks fuel
    if (← get).reserved? == some wanted then skip wanted.length else surprise (some wanted)

/-- Reads a list of commands that must not be empty. At the end of the script it is left to the
caller to say what is missing. -/
def body (fuel : Nat) : Reading (List Statement) := do
  match fuel with
  | 0 => surprise none
  | fuel + 1 =>
    match ← list fuel with
    | [] => if (← get).rest.isEmpty then pure [] else surprise none
    | statements => pure statements

/-- Reads the commands of a loop. -/
def loopBody (fuel : Nat) : Reading (List Statement) := do
  match fuel with
  | 0 => surprise none
  | fuel + 1 =>
    expectWord fuel "do"
    let statements ← body fuel
    expectWord fuel "done"
    pure statements

/-- Reads a condition after its first word. -/
def conditional (fuel : Nat) : Reading Statement := do
  match fuel with
  | 0 => surprise none
  | fuel + 1 =>
    let test ← body fuel
    expectWord fuel "then"
    let consequence ← body fuel
    match (← get).reserved? with
    | some "elif" => do
      skip 4
      let otherwise ← conditional fuel
      pure (.conditional test consequence [otherwise])
    | some "else" => do
      skip 4
      let otherwise ← body fuel
      expectWord fuel "fi"
      pure (.conditional test consequence otherwise)
    | _ => do
      expectWord fuel "fi"
      pure (.conditional test consequence [])

/-- Reads words up to the end of a command. -/
def words (fuel : Nat) : Reading (List Word) := do
  match fuel with
  | 0 => surprise none
  | fuel + 1 =>
    match ← word? fuel with
    | none => pure []
    | some word => do
      let isExtended := (← get).isExtended
      let rest ← words fuel
      pure ((if isExtended then spreadWord word else [word]) ++ rest)

/-- Reads a loop over words after its first word. -/
def each (fuel : Nat) : Reading Statement := do
  match fuel with
  | 0 => surprise none
  | fuel + 1 =>
    skipBlanks
    let isExtended := (← get).isExtended
    let name ← takeWhile continuesName
    if isName name || (isExtended && !name.isEmpty) then do
      skipBreaks fuel
      if (← get).reserved? == some "in" then do
        skip 2
        let listed ← words fuel
        skipBlanks
        match (← get).rest with
        | ';' :: _ => skip 1
        | '\n' :: _ => skip 1
        | _ => surprise none
        let statements ← loopBody fuel
        pure (.each name (some listed) statements)
      else do
        if (← get).operator? == some ";" then skip 1
        let statements ← loopBody fuel
        pure (.each name none statements)
    else
      let rest ← takeWhile (!isDelimiter ·)
      fault (.badVariable (name ++ rest))

/-- Reads the patterns before the commands of an arm. -/
def patterns (fuel : Nat) : Reading (List Word) := do
  match fuel with
  | 0 => surprise none
  | fuel + 1 =>
    match ← word? fuel with
    | none => surprise (some ")")
    | some pattern => do
      skipBlanks
      if (← get).operator? == some "|" then do
        skip 1
        let rest ← patterns fuel
        pure (pattern :: rest)
      else do
        expectOperator ")"
        pure [pattern]

/-- Reads the arms of a choice of a word up to its last word. In the extended dialect an arm may go on with
the commands of the next one, or with the patterns behind it. -/
def arms (fuel : Nat) (subject : Word) : Reading (List (List Word × List Statement)) := do
  match fuel with
  | 0 => surprise none
  | fuel + 1 =>
    skipBreaks fuel
    if (← get).reserved? == some "esac" then do
      skip 4
      pure []
    else do
      if (← get).operator? == some "(" then skip 1
      let tests ← patterns fuel
      let statements ← list fuel
      skipBreaks fuel
      match (← get).isExtended, (← get).rest with
      | true, ';' :: ';' :: '&' :: _ => do
        skip 3
        let rest ← arms fuel subject
        pure ((tests, statements ++ [.choice subject rest]) :: rest)
      | true, ';' :: '&' :: _ => do
        skip 2
        let rest ← arms fuel subject
        pure ((tests, statements ++ (rest.head?.map (·.2)).getD []) :: rest)
      | _, _ =>
      if (← get).operator? == some ";;" then do
        skip 2
        let rest ← arms fuel subject
        pure ((tests, statements) :: rest)
      else if (← get).reserved? == some "esac" then do
        skip 4
        pure [(tests, statements)]
      else surprise (some ";;")

/-- Reads one command. -/
def command (fuel : Nat) : Reading Statement := do
  match fuel with
  | 0 => surprise none
  | fuel + 1 =>
    skipBlanks
    modify Cursor.expanded
    let cursor ← get
    let compound (count : Nat) (inner : Reading Statement) : Reading Statement := do
      skip count
      let statement ← inner
      match ← redirections fuel with
      | [] => pure statement
      | changes => pure (.redirected statement changes)
    match ← extendedCommand? fuel with
    | some statement => compound 0 (pure statement)
    | none =>
    if cursor.operator? == some "(" then
      compound 1 do
        let statements ← body fuel
        expectOperator ")"
        pure (.subshell statements)
    else
      match cursor.reserved? with
      | some "\x7b" =>
        compound 1 do
          let statements ← body fuel
          expectWord fuel "\x7d"
          pure (.group statements)
      | some "if" => compound 2 (conditional fuel)
      | some "while" =>
        compound 5 do
          let test ← body fuel
          let statements ← loopBody fuel
          pure (.loop true test statements)
      | some "until" =>
        compound 5 do
          let test ← body fuel
          let statements ← loopBody fuel
          pure (.loop false test statements)
      | some "for" => compound 3 (each fuel)
      | some "case" =>
        compound 4 do
          match ← word? fuel with
          | none => surprise none
          | some word => do
            expectWord fuel "in"
            let choices ← arms fuel word
            pure (.choice word choices)
      | some _ => surprise none
      | none => simple fuel cursor.line [] [] [] []

/-- Reads a command that only the extended dialect has, if one is ahead. -/
def extendedCommand? (fuel : Nat) : Reading (Option Statement) := do
  match fuel with
  | 0 => surprise none
  | fuel + 1 =>
    let cursor ← get
    let begins (word : String) : Bool :=
      word.toList.isPrefixOf cursor.rest && ((cursor.rest.drop word.length).head?.all isDelimiter)
    if !cursor.isExtended then pure none
    else if begins "[[" then do
      skip 2
      let question ← anyQuestion fuel
      skipBreaks fuel
      match (← get).rest with
      | ']' :: ']' :: _ => do
        skip 2
        pure (some (.question cursor.line question))
      | _ => surprise none
    else if begins "function" then do
      skip 8
      skipBlanks
      let name ← takeWhile (!isDelimiter ·)
      skipBlanks
      match (← get).rest with
      | '(' :: _ => do
        skip 1
        expectOperator ")"
      | _ => pure ()
      skipBreaks fuel
      let body ← command fuel
      pure (some (.function name body))
    else
      match cursor.rest with
      | '(' :: '(' :: rest =>
        if closesSum 0 rest then do
          skip 2
          let expression ← parts fuel (.sum 0) []
          skip 2
          pure (some (.sum cursor.line expression))
        else pure none
      | 'f' :: 'o' :: 'r' :: rest =>
        match afterParentheses? rest with
        | none => pure none
        | some length => do
          skip (3 + length)
          let start ← expressionBefore fuel ";"
          let test ← expressionBefore fuel ";"
          let step ← expressionBefore fuel "))"
          skipBlanks
          if (← get).operator? == some ";" then skip 1
          skipBreaks fuel
          let statements ← do
            if (← get).reserved? == some "\x7b" then
              skip 1
              let statements ← body fuel
              expectWord fuel "\x7d"
              pure statements
            else loopBody fuel
          pure (some (.counted cursor.line start test step statements))
      | _ => pure none

/-- Reads the part of an arithmetic expression before a mark, which is passed. -/
def expressionBefore (fuel : Nat) (stop : String) : Reading Word := do
  match fuel with
  | 0 => surprise none
  | fuel + 1 =>
    let cursor ← get
    match beforeMark stop.toList cursor.rest with
    | none => fault .unclosedSum
    | some (inner, rest) => do
      set { cursor with rest := inner ++ [')', ')'] }
      let expression ← parts fuel (.sum 0) []
      set { cursor with rest }
      pure expression

/-- Reads conditions of which one has to hold. -/
def anyQuestion (fuel : Nat) : Reading Question := do
  match fuel with
  | 0 => surprise none
  | fuel + 1 =>
    let first ← allQuestions fuel
    skipBreaks fuel
    if (← get).operator? == some "||" then do
      skip 2
      let second ← anyQuestion fuel
      pure (.either first second)
    else pure first

/-- Reads conditions that all have to hold. -/
def allQuestions (fuel : Nat) : Reading Question := do
  match fuel with
  | 0 => surprise none
  | fuel + 1 =>
    let first ← question fuel
    skipBreaks fuel
    if (← get).operator? == some "&&" then do
      skip 2
      let second ← allQuestions fuel
      pure (.both first second)
    else pure first

/-- Reads one condition. -/
def question (fuel : Nat) : Reading Question := do
  match fuel with
  | 0 => surprise none
  | fuel + 1 =>
    skipBreaks fuel
    let closes (ahead : List Char) : Bool :=
      [']', ']'].isPrefixOf ahead && ((ahead.drop 2).head?.all isDelimiter)
    let needed : Reading Word := do
      if closes (← get).rest then fault (.badQuestion none "]]")
      else
        match ← word? fuel with
        | some word => pure word
        | none => surprise none
    match (← get).rest with
    | '!' :: c :: _ =>
      if isBlank c then do
        skip 1
        .denied <$> question fuel
      else do
        let word ← needed
        relation fuel word
    | '(' :: _ => do
      skip 1
      let inner ← anyQuestion fuel
      skipBreaks fuel
      expectOperator ")"
      pure inner
    | _ => do
      let word ← needed
      skipBlanks
      match plainText? word with
      | some operator =>
        let ahead := (← get).rest
        if questionOperators.contains operator then
          if closes ahead || ahead.head?.all isDelimiter then
            let here ← get
            let token := if closes ahead then "]]" else here.token
            fault (.badQuestion
              (some ("unexpected argument \x60" ++ token ++ "' to conditional unary operator")) token)
          else do
            let operand ← needed
            pure (.unary operator operand)
        else relation fuel word
      | none => relation fuel word

/-- Reads what a word is compared with, if it is. -/
def relation (fuel : Nat) (first : Word) : Reading Question := do
  match fuel with
  | 0 => surprise none
  | fuel + 1 =>
    skipBlanks
    let ahead := (← get).rest
    let closes (ahead : List Char) : Bool :=
      [']', ']'].isPrefixOf ahead && ((ahead.drop 2).head?.all isDelimiter)
    let compared (operator : String) : Reading Question := do
      skip operator.length
      skipBlanks
      let ahead := (← get).rest
      if closes ahead || ahead.head?.all (· == '\n') then do
        let token := if closes ahead then "]]" else "newline"
        let reason := "unexpected argument \x60" ++ token ++ "' to conditional binary operator"
        if closes ahead then skip 2
        skipBlanks
        let here ← get
        fault (.badQuestion (some reason) (if closes ahead then here.token else operator))
      else do
        let second ← parts fuel (.fitting 0) []
        pure (.binary first operator second)
    match ahead with
    | '<' :: _ => compared "<"
    | '>' :: _ => compared ">"
    | _ =>
      match questionRelations.find? fun relation =>
        relation.toList.isPrefixOf ahead && ((ahead.drop relation.length).head?.any isBlank) with
      | some operator => compared operator
      | none =>
        let next := (← get).token
        if closes ahead || ["&&", "||", ")"].contains next then pure (.holds first)
        else if ahead.head?.all (· == '\n') then
          fault (.badQuestion
            (some "unexpected token \x60newline', conditional binary operator expected")
            (first.foldl (fun text part => match part with
              | .text more _ => text ++ more
              | _ => text) ""))
        else fault (.badQuestion (some "conditional binary operator expected") next)

/-- Reads the commands of a pipeline after the first one. -/
def members (fuel : Nat) (first : Statement) : Reading (List Statement) := do
  match fuel with
  | 0 => surprise none
  | fuel + 1 =>
    skipBlanks
    let cursor ← get
    if cursor.operator? == some "|" then do
      skip 1
      let mergesErrors := cursor.isExtended && (← get).rest.head? == some '&'
      if mergesErrors then skip 1
      skipBreaks fuel
      let next ← command fuel
      let rest ← members fuel next
      pure ((if mergesErrors then .redirected first [.change 2 .duplicate [.text "1" true]]
        else first) :: rest)
    else pure [first]

/-- Reads a pipeline. -/
def pipeline (fuel : Nat) : Reading Statement := do
  match fuel with
  | 0 => surprise none
  | fuel + 1 =>
    skipBlanks
    let ahead := (← get).rest
    let isTimed := (← get).isExtended && "time".toList.isPrefixOf ahead &&
      ((ahead.drop 4).head?.all isDelimiter)
    if isTimed then do
      skip 4
      skipBlanks
      let isCommon := ['-', 'p', ' '].isPrefixOf (← get).rest
      if isCommon then skip 2
      skipBlanks
      if (← get).rest.head?.all fun c => c == '\n' || c == ';' then pure (.timed isCommon (.group []))
      else .timed isCommon <$> pipeline fuel
    else do
      let isNegated := (← get).reserved? == some "!"
      if isNegated then skip 1
      let first ← command fuel
      let statement : Statement ← do
        match ← members fuel first with
        | [single] => pure single
        | all => pure (.pipeline all)
      pure (if isNegated then .negated statement else statement)

/-- Reads what is joined to a statement by conditions on its outcome. -/
def joined (fuel : Nat) (first : Statement) : Reading Statement := do
  match fuel with
  | 0 => surprise none
  | fuel + 1 =>
    skipBlanks
    match (← get).operator? with
    | some "&&" => do
      skip 2
      skipBreaks fuel
      let second ← pipeline fuel
      joined fuel (.both first second)
    | some "||" => do
      skip 2
      skipBreaks fuel
      let second ← pipeline fuel
      joined fuel (.either first second)
    | _ => pure first

/-- Reads the commands of one line, the rest of which is ahead. -/
def rowOf (fuel : Nat) : Reading (List Statement) := do
  match fuel with
  | 0 => surprise none
  | fuel + 1 =>
    skipBlanks
    let cursor ← get
    if cursor.rest.isEmpty || cursor.rest.head? == some '\n' || cursor.endsList then pure []
    else do
      let first ← pipeline fuel
      let statement ← joined fuel first
      skipBlanks
      let here ← get
      let fallsThrough := here.isExtended && [';', '&'].isPrefixOf here.rest
      match if fallsThrough then none else here.operator? with
      | some ";" => do
        skip 1
        let rest ← rowOf fuel
        pure (statement :: rest)
      | some "&" => do
        skip 1
        let rest ← rowOf fuel
        pure (.background statement :: rest)
      | _ => pure [statement]

/-- Reads commands up to whatever ends a list. -/
def list (fuel : Nat) : Reading (List Statement) := do
  match fuel with
  | 0 => surprise none
  | fuel + 1 =>
    skipBreaks fuel
    match ← rowOf fuel with
    | [] => pure []
    | row => do
      skipBlanks
      if (← get).rest.head? == some '\n' then do
        let rest ← list fuel
        pure (row ++ rest)
      else pure row

/-- Reads a whole script. -/
def lines (fuel : Nat) : Reading (List Statement) := do
  match fuel with
  | 0 => surprise none
  | fuel + 1 =>
    let statements ← list fuel
    if (← get).rest.isEmpty then pure statements else surprise none

end

end Reading

/-- Reads the next line that holds commands, and gives the position after it; `none` at the end of
the script. -/
def Cursor.nextLine (cursor : Cursor) : Except (Nat × ScriptFault) (Option (List Statement × Cursor)) :=
  let fuel := 16 * cursor.rest.length + 64
  let step : Reading (List Statement) := do
    Reading.skipBreaks fuel
    if (← get).rest.isEmpty then pure []
    else do
      let row ← Reading.rowOf fuel
      let cursor ← get
      if cursor.rest.isEmpty || cursor.rest.head? == some '\n' then
        if row.isEmpty then Reading.surprise none else pure row
      else Reading.surprise none
  match step.run cursor with
  | .error fault => .error fault
  | .ok ([], _) => .ok none
  | .ok (row, after) => .ok (some (row, after))

end RunMeter.Shell
