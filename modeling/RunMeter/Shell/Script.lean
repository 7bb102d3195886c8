/-!
# Scripts

The language in which small programs are written: commands joined by pipes, conditions and loops. A
`Statement` is what runs; a `Word` is a row of parts that yields texts when it is expanded. Parts
remember whether they were quoted, for only what was not quoted is split or matched against names.

There are two dialects. The extended one has lists as values of variables, conditions and arithmetic as
statements of their own, and more ways of reading parameters.
-/

set_option autoImplicit false

namespace RunMeter.Shell

/-- The ways of writing scripts. -/
inductive Dialect
  | plain
  | extended
deriving DecidableEq, Repr

/-- Which of the places where a pattern fits are replaced. -/
inductive Extent
  | first
  | every
  | atFront
  | atBack
deriving DecidableEq, Repr

/-- What stands in for a parameter that has no value, or none of use. -/
inductive Fallback
  /-- The word instead of the value. -/
  | word
  /-- The word, which the parameter keeps. -/
  | assigned
  /-- The end of the script, with the word as the complaint. -/
  | complaint
  /-- The word if there is a value, and nothing otherwise. -/
  | reversed
deriving DecidableEq, Repr

/-- The end of a value from which a pattern is cut. -/
inductive Side
  | front
  | back
deriving DecidableEq, Repr

/-- How a redirection opens its target. -/
inductive Opening
  | read
  | write
  /-- Writing that may replace what is there, whatever the options say. -/
  | overwrite
  | append
  | readWrite
  /-- The target is another descriptor. -/
  | duplicate
  /-- The target is the text itself. -/
  | here
deriving DecidableEq, Repr

mutual

/-- A part of a word. -/
inductive WordPart
  | text (characters : String) (isQuoted : Bool)
  | parameter (name : String) (reading : ParameterReading) (isQuoted : Bool)
  /-- What a script writes. -/
  | output (script : List Statement) (isQuoted : Bool)
  /-- The value of an arithmetic expression. -/
  | sum (expression : List WordPart) (isQuoted : Bool)
  /-- The home directory of a user, or one's own if no user is named. -/
  | home (user : String)
  /-- Parts of which no fields are made. -/
  | whole (parts : List WordPart)
  /-- The name of a file from which what a script writes can be read. -/
  | fed (script : List Statement)

/-- What is asked of a parameter. -/
inductive ParameterReading
  | value
  | length
  /-- With `ofEmpty`, an empty value counts as none. -/
  | fallback (kind : Fallback) (ofEmpty : Bool) (word : List WordPart)
  | trimmed (side : Side) (isLongest : Bool) (pattern : List WordPart)
  /-- The characters from a place on, so many of them if that is said. -/
  | part (start : List WordPart) (length : Option (List WordPart))
  | replaced (extent : Extent) (pattern replacement : List WordPart)
  /-- With other letters: all of them, or the first. -/
  | recased (isUpper isWhole : Bool)
  /-- As a script would have to quote it. -/
  | requoted
  /-- Of one element of a list. -/
  | element (subscript : List WordPart) (reading : ParameterReading)
  /-- Of every element of a list, which may be joined to one text. -/
  | elements (isJoined : Bool) (reading : ParameterReading)
  /-- The subscripts of a list. -/
  | subscripts (isJoined : Bool)
  /-- The names of the variables that begin like this one. -/
  | names (isJoined : Bool)
  /-- Of the parameter of which the value is the name. -/
  | named (reading : ParameterReading)
  /-- Something that no parameter has, as it stands in the script. -/
  | improper (text : String)

/-- A change of one descriptor for the time of a command. -/
inductive Redirection
  | change (descriptor : Nat) (opening : Opening) (target : List WordPart)

/-- A new value for a variable. -/
inductive Assignment
  /-- One text, for an element of a list if there is a subscript, perhaps behind the old value. -/
  | one (name : String) (subscript : Option (List WordPart)) (appends : Bool) (value : List WordPart)
  /-- A list, some of whose items may have subscripts. -/
  | many (name : String) (appends : Bool) (items : List (Option (List WordPart) × List WordPart))

/-- A condition as a statement of its own. -/
inductive Question
  | holds (word : List WordPart)
  | unary (operator : String) (word : List WordPart)
  | binary (first : List WordPart) (operator : String) (second : List WordPart)
  | denied (question : Question)
  | both (first second : Question)
  | either (first second : Question)

/-- Something that runs. -/
inductive Statement
  /-- Assignments, words and redirections, in a line of the script. `lists` are assigned after the
  command has been carried out. -/
  | simple (line : Nat) (assignments : List Assignment) (words : List (List WordPart))
      (redirections : List Redirection) (lists : List Assignment)
  | pipeline (members : List Statement)
  | negated (statement : Statement)
  | both (first second : Statement)
  | either (first second : Statement)
  | background (statement : Statement)
  | group (body : List Statement)
  | subshell (body : List Statement)
  | conditional (test body otherwise : List Statement)
  /-- A loop that goes on as long as its test has the outcome `onSuccess`. -/
  | loop (onSuccess : Bool) (test body : List Statement)
  /-- A loop over words, or over the arguments if there are none. -/
  | each (variableName : String) (words : Option (List (List WordPart))) (body : List Statement)
  | choice (word : List WordPart) (arms : List (List (List WordPart) × List Statement))
  | function (name : String) (body : Statement)
  | question (line : Nat) (question : Question)
  /-- An arithmetic expression, of which a value other than zero counts as success. -/
  | sum (line : Nat) (expression : List WordPart)
  /-- A loop with expressions for its start, its test and its step. -/
  | counted (line : Nat) (start test step : List WordPart) (body : List Statement)
  /-- A statement whose time is reported, perhaps in the form that every system knows. -/
  | timed (isCommon : Bool) (statement : Statement)
  | redirected (statement : Statement) (redirections : List Redirection)

end

/-- A row of parts that is expanded as a whole. -/
abbrev Word := List WordPart

/-- The text of a word that is plain text without quotes. -/
def plainText? : Word → Option String
  | [.text characters false] => some characters
  | _ => none

end RunMeter.Shell
