import RunMeter.Shell.Process

/-!
# What the commands of a shell have in common

A special command that fails ends the script; any other leaves a status. Here is how the commands
fail, how they read their options and numbers, and how values are shown so that a script could read
them again.
-/

set_option autoImplicit false

namespace RunMeter.Shell.Builtin

/-- The commands that are not special. -/
def ordinary : List String :=
  ["[", "alias", "bg", "cd", "chdir", "command", "echo", "false", "fg", "getopts", "hash", "jobs",
    "kill", "printf", "pwd", "read", "test", "true", "type", "ulimit", "umask", "unalias", "wait"]

/-- The commands of a shell that reads the extended dialect. -/
def extendedNames : List String :=
  [".", ":", "[", "alias", "bg", "bind", "break", "builtin", "caller", "cd", "command", "compgen",
    "complete", "compopt", "continue", "declare", "dirs", "disown", "echo", "enable", "eval", "exec",
    "exit", "export", "false", "fc", "fg", "getopts", "hash", "help", "history", "jobs", "kill", "let",
    "local", "logout", "mapfile", "popd", "printf", "pushd", "pwd", "read", "readarray", "readonly",
    "return", "set", "shift", "shopt", "source", "suspend", "test", "times", "trap", "true", "type",
    "typeset", "ulimit", "umask", "unalias", "unset", "wait"]

/-- Whether a name is that of a command of the shell. -/
def isKnown (dialect : Dialect) (name : String) : Bool :=
  match dialect with
  | .plain => specialCommands.contains name || ordinary.contains name
  | .extended => extendedNames.contains name

/-- Does something in the name of the shell and not of a command of it. -/
def plainly (use : Run → Run) (run : Run) : Run :=
  let before := run.process.command
  (use (run.onProcess fun process => { process with command := "" })).onProcess fun process =>
    { process with command := before }

/-- Explains how the current command is called, and fails. -/
def showUsage (usage : String) (run : Run) : Run :=
  let name := run.process.command
  (run.write 2 (name ++ ": usage: " ++ name ++ " " ++ usage ++ "\n")).ended 2

/-- Whether an option was given. -/
def isGiven (given : List (Char × String)) (letter : Char) : Bool :=
  given.any fun (other, _) => other == letter

/-- Fails as the current command does: a special one ends the script. -/
def refuse (run : Run) (text : String) : Run :=
  if specialCommands.contains run.process.command then run.fatal text else run.failing 2 text

/-- A whole number that is not negative, in decimal notation with blanks around it. -/
def number? (text : String) : Option Nat :=
  let isSpace (c : Char) : Bool := c == ' ' || ('\t' ≤ c && c ≤ '\r')
  let trimmed := text.toList.dropWhile isSpace
  let trimmed := (trimmed.reverse.dropWhile isSpace).reverse
  let (isNegative, digits) := match trimmed with
    | '-' :: digits => (true, digits)
    | '+' :: digits => (false, digits)
    | digits => (false, digits)
  if digits.isEmpty || !digits.all Char.isDigit then none
  else
    let n := digits.foldl (fun n c => n * 10 + (c.toNat - 48)) 0
    if n < 2 ^ 31 && (!isNegative || n == 0) then some n else none

/-- Goes on with the number that a text stands for, or fails. -/
def withNumber (run : Run) (text : String) (use : Nat → Run) : Run :=
  match number? text with
  | some n => use n
  | none => refuse run ("Illegal number: " ++ text)

/-- What is wrong with the options of a command. -/
inductive LetterFault
  | unknown (letter : Char)
  | missing (letter : Char)
deriving DecidableEq, Repr

/-- The wording of a fault. -/
def LetterFault.message : LetterFault → String
  | .unknown letter => "Illegal option -" ++ String.ofList [letter]
  | .missing letter => "No arg for -" ++ String.ofList [letter] ++ " option"

/-- The wording of a fault in the extended dialect. -/
def LetterFault.extendedMessage : LetterFault → String
  | .unknown letter => "-" ++ String.ofList [letter] ++ ": invalid option"
  | .missing letter => "-" ++ String.ofList [letter] ++ ": option requires an argument"

/-- The letters of one argument as options. `known` holds the letters, each followed by a colon if it
has a value, which may be the next argument. Gives the options and whether that was used. -/
def letters (known : List Char) (next : Option String) :
    List Char → Except LetterFault (List (Char × String) × Bool)
  | [] => .ok ([], false)
  | letter :: rest =>
    match known.dropWhile (· != letter), letter with
    | [], _ | _, ':' => .error (.unknown letter)
    | _ :: ':' :: _, _ =>
      if !rest.isEmpty then .ok ([(letter, String.ofList rest)], false)
      else
        match next with
        | some value => .ok ([(letter, value)], true)
        | none => .error (.missing letter)
    | _ :: _, _ => do
      let (more, usesNext) ← letters known next rest
      .ok ((letter, "") :: more, usesNext)

/-- Divides arguments into options, which stand at the front, and what follows them. -/
def options (known : List Char) :
    List String → Except LetterFault (List (Char × String) × List String)
  | [] => .ok ([], [])
  | arg :: rest =>
    match arg.toList with
    | ['-', '-'] => .ok ([], rest)
    | '-' :: letter :: more => do
      let (found, usesNext) ← letters known rest.head? (letter :: more)
      let (others, operands) ←
        match usesNext, rest with
        | true, _ :: rest => options known rest
        | _, rest => options known rest
      .ok (found ++ others, operands)
    | _ => .ok ([], arg :: rest)

/-- Reads the options of a command and goes on with them, or fails. -/
def withOptions (known : String) (args : List String) (run : Run)
    (use : List (Char × String) → List String → Run → Run) : Run :=
  match options known.toList args with
  | .ok (given, operands) => use given operands run
  | .error fault => refuse run fault.message

/-- Reads the options of a command of the extended dialect and goes on with them, or fails. -/
def withUsage (known usage : String) (args : List String) (run : Run)
    (use : List (Char × String) → List String → Run → Run) : Run :=
  match options known.toList args with
  | .ok (given, operands) => use given operands run
  | .error fault => showUsage usage (run.complain fault.extendedMessage)

/-- A text between quotes. Quotes within it stand between quotes of the other kind. `fuel` is more
than its length. -/
def quotedWithin : (fuel : Nat) → List Char → List Char
  | 0, _ => []
  | fuel + 1, text =>
    let plain := text.takeWhile (· != '\'')
    let rest := text.drop plain.length
    let quotes := rest.takeWhile (· == '\'')
    let first := '\'' :: plain ++ ['\'']
    if quotes.isEmpty then first
    else
      let after := rest.drop quotes.length
      let second := '"' :: quotes ++ ['"']
      if after.isEmpty then first ++ second else first ++ second ++ quotedWithin fuel after

/-- A text as a script would have to quote it. -/
def quoted (text : String) : String := String.ofList (quotedWithin (text.length + 1) text.toList)

/-- Splits an assignment into name and value. -/
def assignment (word : String) : String × Option String :=
  let name := word.toList.takeWhile (· != '=')
  if name.length = word.length then (word, none)
  else (String.ofList name, some (String.ofList (word.toList.drop (name.length + 1))))

/-- Sets a variable, and marks it as `mark` says. A constant cannot be set. -/
def setVariable (mark : Variable → Variable) (name value : String) (run : Run) : Run :=
  match run.process.bindings.lookup name with
  | some entry =>
    if entry.isConstant then run.fatal (name ++ ": is read only")
    else
      let run := run.onProcess fun process => process.assign name value
      run.onProcess fun process =>
        process.restore name ((process.bindings.lookup name).map mark)
  | none =>
    let run := run.onProcess fun process => process.assign name value
    run.onProcess fun process => process.restore name ((process.bindings.lookup name).map mark)

/-- Sets a variable in the name of a command that may fail without ending the script. -/
def setByCommand (name value : String) (run : Run) : Run :=
  if !isName name then refuse run (name ++ ": bad variable name")
  else
    match run.process.bindings.lookup name with
    | some entry =>
      if entry.isConstant then refuse run (name ++ ": is read only")
      else run.onProcess fun process => process.assign name value
    | none => run.onProcess fun process => process.assign name value

end RunMeter.Shell.Builtin
