import RunMeter.Shell.Builtin.Basic

/-!
# Commands on variables and options

What a shell keeps by name: its variables and their marks, the options that are on, the arguments, and
the short names for commands.
-/

set_option autoImplicit false

namespace RunMeter.Shell.Builtin

/-! ## Options of the shell -/

/-- The options by letter and name. Those without letters have a blank. -/
def optionTable : Dialect → List (Char × String)
  | .plain =>
    [('e', "errexit"), ('f', "noglob"), ('I', "ignoreeof"), ('i', "interactive"), ('m', "monitor"),
      ('n', "noexec"), ('s', "stdin"), ('x', "xtrace"), ('v', "verbose"), ('V', "vi"), ('E', "emacs"),
      ('C', "noclobber"), ('a', "allexport"), ('b', "notify"), ('u', "nounset"), ('p', "privileged"),
      (' ', "nolog"), (' ', "debug")]
  | .extended =>
    [('a', "allexport"), ('B', "braceexpand"), (' ', "emacs"), ('e', "errexit"), ('E', "errtrace"),
      ('T', "functrace"), ('h', "hashall"), ('H', "histexpand"), (' ', "history"), (' ', "ignoreeof"),
      (' ', "interactive-comments"), ('k', "keyword"), ('m', "monitor"), ('C', "noclobber"),
      ('n', "noexec"), ('f', "noglob"), (' ', "nolog"), ('b', "notify"), ('u', "nounset"),
      ('t', "onecmd"), ('P', "physical"), (' ', "pipefail"), (' ', "posix"), ('p', "privileged"),
      ('v', "verbose"), (' ', "vi"), ('x', "xtrace")]

/-- The letters of the options that are on. -/
def optionLetters (process : Process) : String :=
  match process.dialect with
  | .plain =>
    String.ofList ((optionTable .plain).reverse.filterMap fun (letter, _) =>
      if letter != ' ' && process.isSet letter then some letter else none)
  | .extended => String.ofList ("abefhkmnptuvxBCEHPTcs".toList.filter process.isSet)

/-- Whether an option of the table is on. -/
def isOptionOn (process : Process) (option : Char × String) : Bool :=
  if option.1 == ' ' then process.isOn option.2 else process.isSet option.1

/-- The long names of the options that are on. -/
def optionNames (process : Process) : List String :=
  ((optionTable process.dialect).filter (isOptionOn process)).map (·.2)

/-- The text that explains how options are set. -/
def setUsage : String :=
  "set: usage: set [-abefhkmnptuvxBCEHPT] [-o option-name] [--] [-] [arg ...]"

/-- Turns the option with a letter on or off. Jobs cannot be controlled without a terminal. -/
def setLetter (isOn : Bool) (letter : Char) (run : Run) : Except String Run :=
  if letter != ' ' && (optionTable run.process.dialect).any fun (known, _) => known == letter then
    if isOn && letter == 'm' && !run.process.isExtended then
      .ok (run.complain "can't access tty; job control turned off")
    else .ok (run.onProcess fun process => process.setOption isOn letter)
  else
    let text := String.ofList [letter]
    .error (if run.process.isExtended then
        (if isOn then "-" else "+") ++ text ++ ": invalid option\n" ++ setUsage
      else "Illegal option -" ++ text)

/-- Turns the option with a long name on or off. -/
def setNamed (isOn : Bool) (name : String) (run : Run) : Except String Run :=
  match (optionTable run.process.dialect).find? fun (_, known) => known == name with
  | some (' ', _) => .ok (run.onProcess fun process => process.setSwitch isOn name)
  | some (letter, _) => setLetter isOn letter run
  | none =>
    .error (if run.process.isExtended then name ++ ": invalid option name"
      else "Illegal option -o " ++ name)

/-- Lists the options. -/
def listOptions (isReadable : Bool) (run : Run) : Run :=
  let state (option : Char × String) : String := if isOptionOn run.process option then "on" else "off"
  let filled (width : Nat) (name : String) : String :=
    name ++ String.ofList (List.replicate (width - name.length) ' ')
  let table := optionTable run.process.dialect
  let lines :=
    if !isReadable then
      table.map fun (letter, name) =>
        "set " ++ (if isOptionOn run.process (letter, name) then "-o " else "+o ") ++ name ++ "\n"
    else if run.process.isExtended then
      table.map fun (letter, name) => filled 15 name ++ "\t" ++ state (letter, name) ++ "\n"
    else
      "Current option settings\n" ::
        table.map fun (letter, name) => filled 16 name ++ state (letter, name) ++ "\n"
  run.print (String.join lines)

/-- Turns the options that letters name on or off. An `o` takes the next word as a name. -/
def takeLetters (isOn : Bool) : List Char → List String → Run → Except String (List String × Run)
  | [], words, run => .ok (words, run)
  | 'o' :: letters, words, run => do
    match words with
    | [] => takeLetters isOn letters [] (listOptions isOn run)
    | name :: rest =>
      let run ← setNamed isOn name run
      takeLetters isOn letters rest run
  | letter :: letters, words, run => do
    let run ← setLetter isOn letter run
    takeLetters isOn letters words run

/-- Takes the options at the front of words: the words that follow, whether the arguments are to be
replaced even by none, and the run. `fuel` is more than the number of words. -/
def takeOptions : (fuel : Nat) → List String → Run → Except String (List String × Bool × Run)
  | 0, words, run => .ok (words, false, run)
  | _, [], run => .ok ([], false, run)
  | fuel + 1, word :: rest, run => do
    match word.toList with
    | ['-'] =>
      .ok (rest, false, run.onProcess fun process =>
        (process.setOption false 'x').setOption false 'v')
    | ['-', '-'] => .ok (rest, true, run)
    | '-' :: letters =>
      let (rest, run) ← takeLetters true letters rest run
      takeOptions fuel rest run
    | '+' :: letters =>
      let (rest, run) ← takeLetters false letters rest run
      takeOptions fuel rest run
    | _ => .ok (word :: rest, false, run)

/-- The variables that satisfy a test, each as a command that would set it. -/
def listVariables (lead : String) (test : Variable → Bool) (run : Run) : Run :=
  let chosen := run.process.bindings.filter fun (name, entry) => isName name && test entry
  let ordered := chosen.mergeSort fun a b => a.1 ≤ b.1
  run.print (String.join (ordered.map fun (name, entry) =>
    lead ++ name ++ (entry.value.map fun value => "=" ++ quoted value).getD "" ++ "\n"))

/-- Sets options and arguments. -/
def set (args : List String) (run : Run) : Run :=
  if args.isEmpty then (listVariables "" (·.value.isSome) run).ended 0
  else
    match takeOptions (args.length + 1) args (run.ended 0) with
    | .error text => refuse run text
    | .ok (words, replaces, run) =>
      if words.isEmpty && !replaces then run
      else
        run.onProcess fun process =>
          { process with arguments := words, optionIndex := 1, optionOffset := none }

/-! ## Variables -/

/-- Sets variables, if values are given, and marks them; without names, lists those with the mark. -/
def declare (mark : Variable → Variable) (isMarked : Variable → Bool) (args : List String)
    (run : Run) : Run :=
  withOptions "p" args run fun given operands run =>
    if operands.isEmpty || !given.isEmpty then
      (listVariables (run.process.command ++ " ") isMarked run).ended 0
    else
      operands.foldl
        (fun run word =>
          if !run.goesOn then run
          else
            let (name, value) := assignment word
            if !isName name then refuse run (name ++ ": bad variable name")
            else
              match value with
              | some value => setVariable mark name value run
              | none =>
                run.onProcess fun process =>
                  process.restore name
                    (some (mark ((process.bindings.lookup name).getD { value := none }))))
        (run.ended 0)

/-- Hides variables for the rest of a function. They keep their values until they are set. -/
def hide (args : List String) (run : Run) : Run :=
  if run.process.calls = 0 then refuse run "not in a function"
  else
    args.foldl
      (fun run word =>
        if !run.goesOn then run
        else
          let (name, value) := assignment word
          if name == "-" then run
          else if !isName name then run.fatal (name ++ ": bad variable name")
          else
            let before := run.process.bindings.lookup name
            let isHidden := run.process.hidden.any fun (other, _) => other == name
            let run := if isHidden then run else
              run.onProcess fun process => { process with hidden := (name, before) :: process.hidden }
            match value with
            | some value => setVariable id name value run
            | none =>
              if before.isSome then run
              else run.onProcess fun process => process.restore name (some { value := none }))
      (run.ended 0)

/-- Removes variables or functions. -/
def unset (args : List String) (run : Run) : Run :=
  withOptions "vf" args run fun given operands run =>
    operands.foldl
      (fun run name =>
        if !run.goesOn then run
        else if (given.getLast?.map (·.1)) == some 'f' then
          run.onProcess fun process =>
            { process with functions := process.functions.filter fun (k, _) => k != name }
        else if !isName name then refuse run (name ++ ": bad variable name")
        else if (run.process.bindings.lookup name).any (·.isConstant) then
          refuse run (name ++ ": is read only")
        else run.onProcess fun process => process.unset name)
      (run.ended 0)

/-- Drops arguments. -/
def shift (args : List String) (run : Run) : Run :=
  let drop (n : Nat) : Run :=
    if n > run.process.arguments.length then refuse run "can't shift that many"
    else
      (run.onProcess fun process =>
        { process with
          arguments := process.arguments.drop n, optionIndex := 1, optionOffset := none }).ended 0
  match args with
  | [] => drop 1
  | text :: _ => withNumber run text drop

/-! ## Reading -/

/-- The texts that are separated by the characters of `separators`: the first `count - 1` of them
and what is left. Characters that a backslash protects are marked and do not separate. -/
def fields (separators : List Char) : (count : Nat) → List (Char × Bool) → List (List (Char × Bool))
  | 0, _ => []
  | count + 1, text =>
    let separates (c : Char × Bool) : Bool := !c.2 && separators.contains c.1
    let isSpace (c : Char × Bool) : Bool :=
      separates c && (c.1 == ' ' || c.1 == '\t' || c.1 == '\n')
    let text := text.dropWhile isSpace
    let field := text.takeWhile (!separates ·)
    let rest := (text.drop field.length).dropWhile isSpace
    let afterStop := match rest with
      | c :: more => if separates c && !isSpace c then more.dropWhile isSpace else rest
      | [] => []
    if count = 0 then
      -- the last one takes all that is left, unless that is one field and its end
      if afterStop.isEmpty then [field]
      else [(text.reverse.dropWhile isSpace).reverse]
    else field :: fields separators count afterStop

/-- The characters of a line and whether a backslash protects them. -/
def protectedMarks : List Char → List (Char × Bool)
  | '\\' :: c :: rest => (c, true) :: protectedMarks rest
  | ['\\'] => []
  | c :: rest => (c, false) :: protectedMarks rest
  | [] => []

/-- Whether a line goes on in the next one: it ends with a backslash that no other one protects. -/
def isContinued (line : List Char) : Bool :=
  (line.reverse.takeWhile (· == '\\')).length % 2 == 1

/-- Reads a line of which broken-off ones are part. `fuel` bounds their number. -/
def continuedLine (fuel : Nat) (before : List Char) (run : Run) : List Char × Bool × Run :=
  let (line, hasEnd, run) := run.readLine 0
  let line := before ++ line.toList
  match fuel with
  | 0 => (line, hasEnd, run)
  | fuel + 1 =>
    if hasEnd && isContinued line then continuedLine fuel line.dropLast run else (line, hasEnd, run)

/-- How many lines a `read` takes together at most. -/
def maxContinued : Nat := 1000

/-- Reads a line into variables. -/
def read (args : List String) (run : Run) : Run :=
  withOptions "p:r" args run fun given names run =>
    if names.isEmpty then refuse run "arg count"
    else
      let isRaw := given.any fun (letter, _) => letter == 'r'
      let (line, hasEnd, run) :=
        if isRaw then
          let (line, hasEnd, run) := run.readLine 0
          (line.toList.map fun c => (c, false), hasEnd, run)
        else
          let (line, hasEnd, run) := continuedLine maxContinued [] run
          (protectedMarks line, hasEnd, run)
      if !run.goesOn then run
      else
        let line := line.filter fun (c, _) => c != Char.ofNat 0
        let separators := ((run.process.value? "IFS").getD " \t\n").toList
        let values := (fields separators names.length line).map fun field =>
          String.ofList (field.map (·.1))
        let run := (names.zip values).foldl
          (fun run (name, value) =>
            if run.process.status = 2 || !run.goesOn then run else setByCommand name value run)
          (run.ended 0)
        if run.goesOn && run.process.status = 0 then run.ended (if hasEnd then 0 else 1) else run

/-! ## Options of scripts -/

/-- What one step of `getopts` finds. -/
structure OptionStep where
  /-- What the variable is set to. -/
  letter : Char
  /-- What `OPTARG` is set to, if it stays set. -/
  value : Option String
  complaint : String := ""
  isOver : Bool := false
  index : Nat
  offset : Option Nat := none
deriving DecidableEq, Repr

/-- Takes the next option out of arguments. `known` holds the letters, each followed by a colon if
it has a value; a colon at its front leaves the complaints to the script. -/
def nextOption (known : List Char) (args : List String) (index : Nat) (offset : Option Nat) :
    OptionStep :=
  let begun : List Char :=
    match offset with
    | some n => if index ≤ 1 then [] else ((args[index - 2]?).getD "").toList.drop n
    | none => []
  let isQuiet := known.head? == some ':'
  let ended (index : Nat) : OptionStep := { letter := '?', value := none, isOver := true, index }
  let take (characters : List Char) (index : Nat) : OptionStep :=
    match characters with
    | [] => ended index
    | letter :: rest =>
      -- where in its argument the next option stands
      let offset : Option Nat :=
        some (((args[index - 2]?).getD "").length - rest.length)
      match known.dropWhile (· != letter), letter with
      | [], _ | _, ':' =>
        { letter := '?'
          value := if isQuiet then some (String.ofList [letter]) else none
          complaint := if isQuiet then "" else "Illegal option -" ++ String.ofList [letter] ++ "\n"
          index
          offset }
      | _ :: ':' :: _, _ =>
        if !rest.isEmpty then { letter, value := some (String.ofList rest), index }
        else
          match args[index - 1]? with
          | some value => { letter, value := some value, index := index + 1 }
          | none =>
            if isQuiet then
              { letter := ':', value := some (String.ofList [letter]), index }
            else
              { letter := '?'
                value := none
                complaint := "No arg for -" ++ String.ofList [letter] ++ " option\n"
                index }
      | _, _ => { letter, value := some "", index, offset }
  if !begun.isEmpty then take begun index
  else
    match (args[index - 1]?).map String.toList with
    | some ['-', '-'] => ended (index + 1)
    | some ('-' :: c :: rest) => take (c :: rest) (index + 1)
    | _ => ended index

/-- Takes the next option of the script. -/
def getopts (args : List String) (run : Run) : Run :=
  match args with
  | known :: name :: rest =>
    let words := if rest.isEmpty then run.process.arguments else rest
    let process := run.process
    let step := nextOption known.toList words process.optionIndex process.optionOffset
    let run := run.write 2 step.complaint
    let run := match step.isOver, step.value with
      | true, _ => run
      | false, some value => setByCommand "OPTARG" value (run.ended 0)
      | false, none => run.onProcess fun process => process.unset "OPTARG"
    let run := run.onProcess fun process => process.assign "OPTIND" (toString step.index)
    let run := setByCommand name (String.ofList [step.letter]) (run.ended 0)
    if !run.goesOn || run.process.status != 0 then run
    else
      (run.onProcess fun process =>
        { process with optionIndex := step.index, optionOffset := step.offset }).ended
        (if step.isOver then 1 else 0)
  | _ => refuse run "Usage: getopts optstring var [arg...]"

/-! ## Short names -/

/-- Where a short name stands in the list of all. -/
def aliasPlace (name : String) : Nat :=
  let codes := name.toList.map Char.toNat
  (codes.foldl (· + ·) 0 + 16 * codes.headD 0) % 39

/-- The line that shows a short name. -/
def aliasLine (entry : String × String) : String := entry.1 ++ "=" ++ quoted entry.2 ++ "\n"

/-- Sets or shows short names. -/
def aliases (args : List String) (run : Run) : Run :=
  if args.isEmpty then
    let ordered := run.process.aliases.mergeSort fun a b => aliasPlace a.1 ≤ aliasPlace b.1
    (run.print (String.join (ordered.map aliasLine))).ended 0
  else
    args.foldl
      (fun run word =>
        match word.toList with
        | [] => (run.write 2 "alias:  not found\n").ended 1
        | c :: rest =>
          let name := c :: rest.takeWhile (· != '=')
          match rest.dropWhile (· != '=') with
          | '=' :: value =>
            run.onProcess fun process =>
              { process with
                aliases :=
                  Process.replaced (String.ofList name) (String.ofList value) process.aliases }
          | _ =>
            match run.process.aliases.lookup word with
            | some value => run.print (aliasLine (word, value))
            | none => (run.write 2 ("alias: " ++ word ++ " not found\n")).ended 1)
      (run.ended 0)

/-- Removes short names. -/
def unalias (args : List String) (run : Run) : Run :=
  withOptions "a" args run fun given operands run =>
    if !given.isEmpty then (run.onProcess fun process => { process with aliases := [] }).ended 0
    else
      operands.foldl
        (fun run name =>
          if (run.process.aliases.lookup name).isSome then
            run.onProcess fun process =>
              { process with aliases := process.aliases.filter fun (k, _) => k != name }
          else (run.write 2 ("unalias: " ++ name ++ " not found\n")).ended 1)
        (run.ended 0)

end RunMeter.Shell.Builtin
