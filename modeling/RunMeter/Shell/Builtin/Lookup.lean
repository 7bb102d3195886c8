import RunMeter.Shell.Builtin.Variables
import RunMeter.Shell.Launch

/-!
# Commands on names of commands

What a name means where a command begins: a reserved word, a short name, a function, a command of the
shell, or a program.
-/

set_option autoImplicit false

namespace RunMeter.Shell.Builtin

/-- Notes where a program was found that was looked for along the search path. -/
def remember (name found : String) (run : Run) : Run :=
  if name.contains '/' then run
  else
    run.onProcess fun process =>
      { process with found := Process.replaced name found process.found }

/-- What a name means: a phrase for it, or what a script would write, as `isVerbose` says. -/
def meaning? (isVerbose : Bool) (name : String) (run : Run) : Option String × Run :=
  let process := run.process
  let say (phrase plain : String) : Option String × Run :=
    (some (if isVerbose then name ++ phrase else plain), run)
  if reservedWords.contains name then say " is a shell keyword" name
  else
    match process.aliases.lookup name with
    | some text => say (" is an alias for " ++ text) ("alias " ++ name ++ "=" ++ quoted text)
    | none =>
      if (process.functions.lookup name).isSome then say " is a shell function" name
      else if specialCommands.contains name then say " is a special shell builtin" name
      else if ordinary.contains name then say " is a shell builtin" name
      else if name.contains '/' then
        if run.asksFile "-e" name then say (" is " ++ name) name else (none, run)
      else
        match run.locateProgram "" name with
        | .error _ => (none, run)
        | .ok (found, _) =>
          let lead := if (process.found.lookup name).isSome then " is a tracked alias for " else " is "
          (some (if isVerbose then name ++ lead ++ found else found), remember name found run)

/-- Says what names mean. -/
def describe (isVerbose : Bool) (names : List String) (run : Run) : Run :=
  names.foldl
    (fun run name =>
      match meaning? isVerbose name run with
      | (some text, run) => run.print (text ++ "\n")
      | (none, run) =>
        (if isVerbose then run.print (name ++ ": not found\n") else run).ended 127)
    (run.ended 0)

/-- Where a name stands in the list of all programs that were found. -/
def foundPlace (name : String) : Nat :=
  let codes := name.toList.map Char.toNat
  (codes.foldl (· + ·) 0 + 16 * codes.headD 0) % 31

/-- Shows, looks for or forgets the programs that were found. -/
def hash (args : List String) (run : Run) : Run :=
  withOptions "r" args run fun given operands run =>
    if !given.isEmpty then (run.onProcess fun process => { process with found := [] }).ended 0
    else if operands.isEmpty then
      let ordered := run.process.found.mergeSort fun a b => foundPlace a.1 ≤ foundPlace b.1
      (run.print (String.join (ordered.map fun (_, found) => found ++ "\n"))).ended 0
    else
      operands.foldl
        (fun run name =>
          if isKnown run.process.dialect name || (run.process.functions.lookup name).isSome then run
          else
            match run.locateProgram "" name with
            | .ok (found, _) => remember name found run
            | .error _ => run.failing 1 (name ++ ": not found"))
        (run.ended 0)

end RunMeter.Shell.Builtin
