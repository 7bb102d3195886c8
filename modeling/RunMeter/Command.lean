/-!
# Commands

A command is a program with its arguments, changes to the environment, and whether its output is
thrown away. The changes are kept in the order of their keys, one per key, so that two commands with
the same effect are equal. Wrapping puts a command behind a tool: read as one list of words
(`Command.words`), the wrapper comes first and the wrapped words stay together after it.
-/

set_option autoImplicit false

namespace RunMeter

/-- Changes to the environment, ordered by variable: a new value, or the removal of the variable. -/
abbrev Overlay := List (String × Option String)

/-- Sets the change of one variable, whatever it was before. -/
def Overlay.set (key : String) (change : Option String) : Overlay → Overlay
  | [] => [(key, change)]
  | (k, c) :: rest =>
    if k = key then (key, change) :: rest
    else if key < k then (key, change) :: (k, c) :: rest
    else (k, c) :: Overlay.set key change rest

/-- The change of one variable, if there is one. -/
def Overlay.change? (overlay : Overlay) (key : String) : Option (Option String) :=
  overlay.lookup key

/-- A program to run. -/
structure Command where
  program : String
  args : List String := []
  environment : Overlay := []
  discardsOutput : Bool := false
deriving DecidableEq, Repr

namespace Command

/-- Appends one argument. -/
def arg (command : Command) (word : String) : Command :=
  { command with args := command.args ++ [word] }

/-- Appends arguments. -/
def withArgs (command : Command) (words : List String) : Command :=
  { command with args := command.args ++ words }

/-- Sets an environment variable. -/
def setVariable (command : Command) (key value : String) : Command :=
  { command with environment := Overlay.set key (some value) command.environment }

/-- Removes an environment variable. -/
def removeVariable (command : Command) (key : String) : Command :=
  { command with environment := Overlay.set key none command.environment }

/-- Throws the output away: the captured text stays empty. -/
def discardingOutput (command : Command) : Command :=
  { command with discardsOutput := true }

/-- Runs the command behind a wrapper with arguments of its own. -/
def wrapped (command : Command) (wrapper : String) (wrapperArgs : List String) : Command :=
  { command with
    program := wrapper
    args := wrapperArgs ++ command.program :: command.args }

/-- The words of the command: the program and its arguments. -/
def words (command : Command) : List String := command.program :: command.args

/-- The command as one line. -/
def display (command : Command) : String := " ".intercalate command.words

end Command

end RunMeter
