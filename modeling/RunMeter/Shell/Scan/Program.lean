/-!
# Programs that scan records

A program for scanning text is a list of rules, each a pattern and what is done with the records that
fit it, and of functions. Here is what such programs are made of; `Scan.Reader` reads them and
`Scan.Machine` carries them out.
-/

set_option autoImplicit false

namespace RunMeter.Shell.Scan

/-- An operation on two numbers. -/
inductive Operator
  | add
  | subtract
  | multiply
  | divide
  | remainder
  | power
deriving DecidableEq, Repr

/-- A way in which two values may stand to each other. -/
inductive Relation
  | less
  | atMost
  | equal
  | unequal
  | atLeast
  | more
deriving DecidableEq, Repr

/-- Where a line is read from. -/
inductive LineOrigin
  | records
  | file
  | command
deriving DecidableEq, Repr

/-- An expression. -/
inductive Term
  | number (value : Float)
  | text (value : String)
  /-- A regular expression; alone it asks whether the record fits it. -/
  | regex (source : String)
  | variable (name : String)
  | element (array : String) (subscripts : List Term)
  | field (index : Term)
  | assign (operator : Option Operator) (target value : Term)
  | choice (test yes no : Term)
  | both (first second : Term)
  | either (first second : Term)
  | not (inner : Term)
  | matches (isNegated : Bool) (subject pattern : Term)
  | isMember (subscripts : List Term) (array : String)
  | related (relation : Relation) (first second : Term)
  | joined (first second : Term)
  | applied (operator : Operator) (first second : Term)
  | signed (isNegative : Bool) (inner : Term)
  /-- One more or one less; the value is that before or after the step. -/
  | stepped (isBefore isUp : Bool) (target : Term)
  | call (name : String) (arguments : List Term)
  | builtin (name : String) (arguments : List Term)
  | line (origin : LineOrigin) (source target : Option Term)

/-- Where the output of a statement goes. -/
inductive Goal
  | file (appends : Bool)
  | command
deriving DecidableEq, Repr

/-- A statement. -/
inductive Action
  | value (term : Term)
  | print (terms : List Term) (goal : Option (Goal × Term))
  | format (terms : List Term) (goal : Option (Goal × Term))
  | conditional (test : Term) (yes no : Action)
  | loop (test : Term) (body : Action)
  | doLoop (body : Action) (test : Term)
  | counted (start : Action) (test : Option Term) (step body : Action)
  | each (name array : String) (body : Action)
  | block (actions : List Action)
  | next
  | nextFile
  | leave (status : Option Term)
  | give (value : Option Term)
  | breakOut
  | goOn
  | delete (array : String) (subscripts : Option (List Term))

/-- When a rule applies. -/
inductive Pattern
  | atStart
  | atEnd
  | always
  | where (test : Term)
  | between (first last : Term)

/-- A pattern and what is done where it fits. -/
structure Rule where
  pattern : Pattern
  action : Action

/-- A function. -/
structure Function where
  parameters : List String
  body : Action

/-- A program. -/
structure Program where
  rules : List Rule := []
  functions : List (String × Function) := []

/-- Whether a program only has rules for the start. -/
def Program.onlyStarts (program : Program) : Bool :=
  program.rules.all fun rule =>
    match rule.pattern with
    | .atStart => true
    | _ => false

/-! ## Faults -/

/-- Why a program cannot be read. -/
inductive Fault
  | unexpected (text : String)
  | unexpectedEnd
  | missingBrace
  | missingParenthesis (text : String)
  | surplusBrace
  | surplusParenthesis
  | outsideLoop (word : String)
  | strayCharacter (c : Char)
  | openText (start : String)
  | openRegex (start : String)
  | undefined (function : String)
  | wrongCount (function : String)
  | misplaced (word : String)
  | outsideFunction
  | arrayMisused (name : String)
  | noArguments
deriving DecidableEq, Repr

/-- The complaint about a fault on a line. -/
def Fault.message (fault : Fault) (line : Nat) : String :=
  let place := "line " ++ toString line ++ ": "
  match fault with
  | .unexpected text => place ++ "syntax error at or near " ++ text
  | .unexpectedEnd => place ++ "syntax error at or near end of line"
  | .missingBrace => place ++ "missing \x7d near end of file"
  | .missingParenthesis text => place ++ "missing ) near " ++ text
  | .surplusBrace => place ++ "extra '\x7d'"
  | .surplusParenthesis => place ++ "extra ')'"
  | .outsideLoop word => place ++ word ++ " statement outside of loop"
  | .strayCharacter c => toString line ++ ": unexpected character '" ++ String.ofList [c] ++ "'"
  | .openText start => place ++ "runaway string constant \"" ++ start ++ " ..."
  | .openRegex start => place ++ "runaway regular expression /" ++ start ++ " ..."
  | .undefined function => place ++ "function " ++ function ++ " never defined"
  | .wrongCount function => place ++ "wrong number of arguments in call to " ++ function
  | .misplaced word => place ++ "improper use of " ++ word
  | .outsideFunction => place ++ "return outside function body"
  | .arrayMisused name => place ++ "illegal reference to array " ++ name
  | .noArguments => place ++ "no arguments in call to printf"

end RunMeter.Shell.Scan
