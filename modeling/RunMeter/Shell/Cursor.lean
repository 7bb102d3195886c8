import RunMeter.Shell.Script

/-!
# Reading positions

What is left of a script, and the line in which it begins. Tokens are cut off at the front: blanks,
comments and broken-off lines carry no meaning, and a reserved word counts only where it stands as a
whole word without quotes.
-/

set_option autoImplicit false

namespace RunMeter.Shell

/-- A position in a script. -/
structure Cursor where
  line : Nat := 1
  rest : List Char
  dialect : Dialect := .plain
  /-- Lines that were taken out of the script and lie between this line and the next. -/
  taken : Nat := 0
  /-- The words that stand for other text at the beginning of a command. -/
  aliases : List (String × String) := []
  /-- Such words within whose text the position lies until so many characters are left. -/
  replaced : List (String × Nat) := []
  /-- How many characters are left where the next word counts as the beginning of a command too. -/
  nextBeginning : Option Nat := none
  /-- What is to be said about the script before it goes on, with the lines in which it is said. -/
  warnings : List (Nat × String) := []
deriving DecidableEq, Repr

/-- Why a script cannot be read. -/
inductive ScriptFault
  | unterminatedQuote (quote : Char)
  | unterminatedSubstitution
  | unclosedBrace
  | unclosedParenthesis
  /-- Nothing closes the list that is assigned to a variable. -/
  | unclosedList
  | unclosedSum
  | badVariable (name : String)
  | badFunctionName
  /-- What is ahead has no place here: its kind, itself and what was wanted instead. -/
  | unexpected (kind token : String) (wanted : Option String)
  | endOfFile (wanted : Option String)
  /-- A condition makes no sense before a token, perhaps for a reason. -/
  | badQuestion (reason : Option String) (token : String)
deriving DecidableEq, Repr

/-- The wording of a fault. -/
def ScriptFault.message : ScriptFault → String
  | .unterminatedQuote _ => "Syntax error: Unterminated quoted string"
  | .unterminatedSubstitution => "Syntax error: EOF in backquote substitution"
  | .unclosedBrace => "Syntax error: Missing '\x7d'"
  | .unclosedParenthesis | .unclosedList => "Syntax error: end of file unexpected (expecting \")\")"
  | .unclosedSum => "Syntax error: Missing '))'"
  | .badVariable _ => "Syntax error: Bad for loop variable"
  | .badFunctionName => "Syntax error: Bad function name"
  | .unexpected kind _ none => "Syntax error: " ++ kind ++ " unexpected"
  | .unexpected kind _ (some wanted) =>
    "Syntax error: " ++ kind ++ " unexpected (expecting \"" ++ wanted ++ "\")"
  | .endOfFile none => "Syntax error: end of file unexpected"
  | .endOfFile (some wanted) =>
    "Syntax error: end of file unexpected (expecting \"" ++ wanted ++ "\")"
  | .badQuestion _ token => "Syntax error: " ++ token ++ " unexpected"

/-- What is said before a fault in the extended dialect. -/
def ScriptFault.reason? : ScriptFault → Option String
  | .badQuestion reason _ => reason
  | _ => none

/-- The wording of a fault in the extended dialect, and whether the line of the script is shown with
it. -/
def ScriptFault.extendedMessage : ScriptFault → String × Bool
  | .badQuestion _ token => ("syntax error near \x60" ++ token ++ "'", true)
  | .unterminatedQuote quote => (unmatched quote, false)
  | .unterminatedSubstitution => (unmatched '\x60', false)
  | .unclosedBrace => (unmatched '\x7d', false)
  | .unclosedParenthesis | .unclosedList | .unclosedSum => (unmatched ')', false)
  | .badVariable name => ("\x60" ++ name ++ "': not a valid identifier", false)
  | .badFunctionName => ("syntax error near unexpected token \x60('", true)
  | .unexpected _ token _ => ("syntax error near unexpected token \x60" ++ token ++ "'", true)
  | .endOfFile _ => ("syntax error: unexpected end of file", false)
where
  /-- A quote or bracket that nothing closes. -/
  unmatched (c : Char) : String :=
    "unexpected EOF while looking for matching \x60" ++ String.ofList [c] ++ "'"

/-- Whether the end of the script is at fault, and not a place before it. -/
def ScriptFault.isAtEnd : ScriptFault → Bool
  | .endOfFile _ | .unclosedParenthesis => true
  | _ => false

/-- Whether a character separates words within a line. -/
def isBlank (c : Char) : Bool := c == ' ' || c == '\t'

/-- Whether a character ends a word that is not quoted. -/
def isDelimiter (c : Char) : Bool :=
  isBlank c || c == '\n' || c == ';' || c == '&' || c == '|' || c == '(' || c == ')' || c == '<' ||
    c == '>'

/-- Whether a name can begin with a character. -/
def startsName (c : Char) : Bool := c.isAlpha || c == '_'

/-- Whether a name can go on with a character. -/
def continuesName (c : Char) : Bool := c.isAlphanum || c == '_'

/-- Whether a text is a name of a variable or function. -/
def isName (text : String) : Bool :=
  match text.toList with
  | [] => false
  | c :: rest => startsName c && rest.all continuesName

/-- The characters that are parameters by themselves. -/
def isSpecialParameter (c : Char) : Bool :=
  c == '@' || c == '*' || c == '#' || c == '?' || c == '-' || c == '$' || c == '!'

/-- The words with a meaning of their own at the start of a command. -/
def reservedWords : List String :=
  ["if", "then", "else", "elif", "fi", "do", "done", "case", "esac", "while", "until", "for",
    "\x7b", "\x7d", "!", "in"]

/-- The reserved words that end a list of commands. -/
def closingWords : List String := ["then", "else", "elif", "fi", "do", "done", "esac", "\x7d"]

/-- The operators before an operand in conditions that are statements of their own. -/
def questionOperators : List String :=
  ["-a", "-b", "-c", "-d", "-e", "-f", "-g", "-h", "-k", "-n", "-p", "-r", "-s", "-t", "-u", "-v", "-w",
    "-x", "-z", "-G", "-L", "-N", "-O", "-R", "-S", "-o"]

/-- The operators between two operands in such conditions, as they are written without quotes. -/
def questionRelations : List String :=
  ["==", "=", "!=", "=~", "-eq", "-ne", "-lt", "-le", "-gt", "-ge", "-nt", "-ot", "-ef"]

/-- The commands that no function can be named after. -/
def specialCommands : List String :=
  [".", ":", "break", "continue", "eval", "exec", "exit", "export", "local", "readonly", "return",
    "set", "shift", "times", "trap", "unset"]

namespace Cursor

/-- Moves over characters. -/
def advance (cursor : Cursor) (count : Nat) : Cursor :=
  let rest := cursor.rest.drop count
  match (cursor.rest.take count).count '\n' with
  | 0 => { cursor with rest }
  | lines => { cursor with line := cursor.line + lines + cursor.taken, rest, taken := 0 }

/-- What follows blanks, comments and broken-off lines, and how many lines were broken off. -/
def afterBlanks (lines : Nat) : List Char → Nat × List Char
  | '\\' :: '\n' :: rest => afterBlanks (lines + 1) rest
  | '#' :: rest => (lines, rest.dropWhile (· != '\n'))
  | c :: rest => if isBlank c then afterBlanks lines rest else (lines, c :: rest)
  | [] => (lines, [])

/-- Skips blanks, comments and broken-off lines. -/
def skipBlanks (cursor : Cursor) : Cursor :=
  let (lines, rest) := afterBlanks 0 cursor.rest
  { cursor with line := cursor.line + lines, rest }

/-- The word ahead, if it is a reserved one. -/
def reserved? (cursor : Cursor) : Option String :=
  let ahead := cursor.rest.takeWhile fun c =>
    c.isLower || c == '\x7b' || c == '\x7d' || c == '!'
  let isWhole := match cursor.rest.drop ahead.length with
    | [] => true
    | c :: _ => isDelimiter c
  let word := String.ofList ahead
  if isWhole && reservedWords.contains word then some word else none

/-- The operators, longer ones first. -/
def operators : List String := ["&&", "||", ";;", ";", "&", "|", "(", ")"]

/-- The operator ahead, if there is one. -/
def operator? (cursor : Cursor) : Option String :=
  operators.find? fun operator => operator.toList.isPrefixOf cursor.rest

/-- Whether the script is written in the extended dialect. -/
def isExtended (cursor : Cursor) : Bool := cursor.dialect == .extended

/-- Whether a script that stands for a file is ahead. -/
def feeds (cursor : Cursor) : Bool :=
  cursor.isExtended &&
    match cursor.rest with
    | '<' :: '(' :: _ => true
    | _ => false

/-- Whether a redirection is ahead: digits, if any, and an arrow. -/
def redirects (cursor : Cursor) : Bool :=
  match cursor.rest.dropWhile Char.isDigit with
  | '<' :: _ => !cursor.feeds
  | '>' :: _ => true
  | '&' :: '>' :: _ => cursor.isExtended && cursor.rest.head? == some '&'
  | _ => false

/-- Whether a character keeps a word from being replaced. -/
def quotes (c : Char) : Bool := c == '\'' || c == '"' || c == '\\' || c == '$' || c == '\x60'

/-- Replaces the word ahead by the text that it stands for, as often as that begins with another such
word. -/
def expandAlias (cursor : Cursor) : (fuel : Nat) → Cursor
  | 0 => cursor
  | fuel + 1 =>
    let word := cursor.rest.takeWhile fun c => !isDelimiter c && !quotes c
    let rest := cursor.rest.drop word.length
    let name := String.ofList word
    let isPlain := !word.isEmpty && (rest.head?.all isDelimiter)
    let isReplaced := cursor.replaced.any fun (other, left) => other == name && left < cursor.rest.length
    match cursor.aliases.lookup name with
    | some text =>
      if isPlain && !isReplaced then
        let nextBeginning :=
          if text.endsWith " " || text.endsWith "\t" then some rest.length else cursor.nextBeginning
        let cursor :=
          { cursor with
            rest := text.toList ++ rest
            replaced := (name, rest.length) :: cursor.replaced
            nextBeginning }
        expandAlias cursor.skipBlanks fuel
      else cursor
    | none => cursor

/-- Replaces the word ahead where a command begins. -/
def expanded (cursor : Cursor) : Cursor :=
  if cursor.aliases.isEmpty then cursor else cursor.expandAlias (cursor.aliases.length + 1)

/-- How a complaint names the kind of what is ahead. -/
def tokenKind (cursor : Cursor) : String :=
  match cursor.rest with
  | '\n' :: _ => "newline"
  | _ =>
    match cursor.operator?, cursor.reserved? with
    | some operator, _ => "\"" ++ operator ++ "\""
    | none, some word => "\"" ++ word ++ "\""
    | none, none => if cursor.redirects then "redirection" else "word"

/-- What is ahead. -/
def token (cursor : Cursor) : String :=
  match cursor.rest with
  | [] | '\n' :: _ => "newline"
  | c :: rest =>
    match cursor.operator? with
    | some operator => operator
    | none =>
      if isDelimiter c then String.ofList [c]
      else String.ofList (c :: rest.takeWhile (!isDelimiter ·))

/-- The fault of a script that goes on with what is ahead. -/
def surprise (cursor : Cursor) (wanted : Option String) : ScriptFault :=
  if cursor.rest.isEmpty then .endOfFile wanted
  else .unexpected cursor.tokenKind cursor.token wanted

/-- Whether nothing follows that belongs to the list of commands before it. -/
def endsList (cursor : Cursor) : Bool :=
  cursor.rest.isEmpty || cursor.operator? == some ")" || cursor.operator? == some ";;" ||
    cursor.reserved?.any closingWords.contains

end Cursor

end RunMeter.Shell
