import RunMeter.Shell.Launch
import RunMeter.Shell.Tool.Clock

/-!
# Tools that start programs

Some of them turn into the program that they start, in an environment or with a rank of their own
(`env`, `nice`, `nohup`, `setsid`, `stdbuf`). `timeout` waits for the program up to a time, and `xargs`
starts one program after another with arguments that it reads.
-/

set_option autoImplicit false

namespace RunMeter.Shell.Tool

/-- Turns into a program. -/
def become (launch : Launcher) (complaint : String → String) (name : String) (args : List String)
    (run : Run) : Run :=
  match launch name args run with
  | .ok child => run.replacedBy child
  | .error fault => failWith fault.status run (complaint name ++ ": " ++ fault.reason)

/-- How a program has ended. -/
inductive Outcome
  | exited (status : Nat)
  | killed (signal : Nat)
  /-- It was not started. -/
  | refused (fault : LaunchFault)
deriving DecidableEq, Repr

/-- Starts a program and waits for its end. -/
def carryOut (launch : Launcher) (name : String) (args : List String) (run : Run) : Outcome × Run :=
  match launch name args run with
  | .error fault => (.refused fault, run)
  | .ok child =>
    let after := { run with machine := child.machine }
    match child.control with
    | .stopped => (.exited 0, after.stopping)
    | .exhausted => (.exited 0, after.exhausting)
    | .killed signal target =>
      if target = child.process.number then (.killed signal, after)
      else (.killed signal, { after with control := .killed signal target })
    | _ => (.exited (child.process.status % 256), after)

/-! ## Changed surroundings -/

/-- The words of a line, which may be quoted. `fuel` is more than its length. -/
def splitWords (quote : Option Char) (word : Option (List Char)) :
    (fuel : Nat) → List Char → List String
  | 0, _ => []
  | _, [] => match word with
    | some reversed => [String.ofList reversed.reverse]
    | none => []
  | fuel + 1, c :: rest =>
    let added (c : Char) : Option (List Char) := some (c :: word.getD [])
    match quote with
    | some q =>
      if c == q then splitWords none (some (word.getD [])) fuel rest
      else
        match c, rest with
        | '\\', d :: more =>
          if q == '"' || d == '\'' || d == '\\' then splitWords quote (added d) fuel more
          else splitWords quote (added c) fuel rest
        | _, _ => splitWords quote (added c) fuel rest
    | none =>
      if c == '\'' || c == '"' then splitWords (some c) (some (word.getD [])) fuel rest
      else if c == ' ' || c == '\t' || c == '\n' then
        match word with
        | some reversed => String.ofList reversed.reverse :: splitWords none none fuel rest
        | none => splitWords none none fuel rest
      else
        match c, rest with
        | '\\', d :: more => splitWords none (added d) fuel more
        | _, _ => splitWords none (added c) fuel rest

/-- The options of `env`. -/
def envTable : OptionTable :=
  { short := "+iu:0vC:S:"
    long :=
      [("ignore-environment", .nothing, 'i'), ("unset", .required, 'u'), ("null", .nothing, '0'),
        ("chdir", .required, 'C'), ("split-string", .required, 'S'), ("debug", .nothing, 'v')]
    stopsEarly := true }

/-- Sets the variables at the front of the operands, and gives the rest of them. -/
def assignOperands : List String → Run → List String × Run
  | [], run => ([], run)
  | word :: rest, run =>
    if word.contains '=' then
      let name := word.toList.takeWhile (· != '=')
      let value := String.ofList (word.toList.drop (name.length + 1))
      assignOperands rest
        (run.onProcess fun process => process.setExported (String.ofList name) value)
    else (word :: rest, run)

/-- Runs a program in a changed environment, or shows the environment. -/
def env (launch : Launcher) (args : List String) (run : Run) : Run :=
  -- a line of words in one argument is taken apart first
  let args := match args with
    | "-S" :: line :: rest => splitWords none none (line.length + 1) line.toList ++ rest
    | args => args
  withOptions envTable 125 args run fun given run =>
    match (given.values 'u').find? fun name => name.isEmpty || name.contains '=' with
    | some name => failWith 125 run ("cannot unset '" ++ name ++ "': Invalid argument")
    | none =>
      let (isBare, operands) := match given.operands with
        | "-" :: rest => (true, rest)
        | operands => (given.has 'i', operands)
      let operands := (given.values 'S').flatMap (fun line =>
        splitWords none none (line.length + 1) line.toList) ++ operands
      let run := if isBare then run.onProcess fun process => { process with bindings := [] } else run
      let run := (given.values 'u').foldl
        (fun run name => run.onProcess fun process => process.unset name) run
      let (words, run) := assignOperands operands run
      match words with
      | [] =>
        let close := if given.has '0' then String.ofList [Char.ofNat 0] else "\n"
        if (given.value? 'C').isSome then misuseWith 125 run "must specify command with --chdir (-C)"
        else
          (run.print (String.join (run.process.environment.map fun (name, value) =>
            name ++ "=" ++ value ++ close))).ended 0
      | name :: rest =>
        if given.has '0' then misuseWith 125 run "cannot specify --null (-0) with command"
        else
          let moved? : Except FileFault Run := match given.value? 'C' with
            | none => .ok run
            | some directory =>
              match run.locate directory with
              | .error fault => .error fault
              | .ok path =>
                match run.nodeAt path with
                | .ok (.directory _) =>
                  .ok (run.onProcess fun process => { process with directory := path, place := path })
                | .ok _ => .error .notADirectory
                | .error fault => .error fault
          match moved? with
          | .error fault =>
            failWith 125 run ("cannot change directory to '" ++ (given.value? 'C').getD "" ++ "': " ++
              faultText fault)
          | .ok run =>
            match launch name rest run with
            | .ok child => run.replacedBy child
            | .error fault =>
              let run := failWith fault.status run (quoted name ++ ": " ++ fault.reason)
              if name.contains ' ' && fault.status = 127 then
                failWith 127 run "use -[v]S to pass options in shebang lines"
              else run

/-- Runs a program at another rank, which nothing else shows. -/
def nice (launch : Launcher) (args : List String) (run : Run) : Run :=
  -- a count may stand behind one hyphen
  let args := match args with
    | first :: rest =>
      match first.toList with
      | '-' :: c :: more =>
        if c.isDigit || (c == '-' && more.all Char.isDigit && !more.isEmpty) then
          "-n" :: String.ofList (c :: more) :: rest
        else args
      | _ => args
    | [] => []
  let table : OptionTable :=
    { short := "n:", long := [("adjustment", .required, 'n')], stopsEarly := true }
  withOptions table 125 args run fun given run =>
    match (given.value? 'n').map fun text => (text, signedNumber? text) with
    | some (text, none) => failWith 125 run ("invalid adjustment '" ++ text ++ "'")
    | adjustment =>
      match given.operands with
      | [] =>
        if adjustment.isSome then misuseWith 125 run "a command must be given with an adjustment"
        else (run.print "0\n").ended 0
      | name :: rest => become launch quoted name rest run

/-- Runs a program that the end of the terminal does not end. -/
def nohup (launch : Launcher) (args : List String) (run : Run) : Run :=
  withOptions { short := "", stopsEarly := true } 125 args run fun given run =>
    match given.operands with
    | [] => misuseWith 125 run "missing operand"
    | name :: rest => become launch (fun name => "failed to run command " ++ quoted name) name rest run

/-- Runs a program in a session of its own. -/
def setsid (launch : Launcher) (args : List String) (run : Run) : Run :=
  let table : OptionTable :=
    { short := "cfw"
      long := [("ctty", .nothing, 'c'), ("fork", .nothing, 'f'), ("wait", .nothing, 'w')]
      stopsEarly := true }
  withOptions table 1 args run fun given run =>
    match given.operands with
    | [] => misuse run "no command specified"
    | name :: rest => become launch (fun name => "failed to execute " ++ name) name rest run

/-- Runs a program that passes on its output at other times, which nothing shows. -/
def stdbuf (launch : Launcher) (args : List String) (run : Run) : Run :=
  let table : OptionTable :=
    { short := "i:o:e:"
      long := [("input", .required, 'i'), ("output", .required, 'o'), ("error", .required, 'e')]
      stopsEarly := true }
  withOptions table 125 args run fun given run =>
    let isMode (text : String) : Bool := text == "L" || (count? text).isSome
    match given.operands, given.options.find? fun (_, value) => !(value.any isMode) with
    | _, some (_, value) => failWith 125 run ("invalid mode '" ++ value.getD "" ++ "'")
    | [], none => misuseWith 125 run "missing operand"
    | name :: rest, none =>
      if given.options.isEmpty then misuseWith 125 run "you must specify a buffering mode option"
      else become launch (fun name => "failed to run command " ++ quoted name) name rest run

/-! ## Limits -/

/-- Runs a program up to a time. -/
def timeout (launch : Launcher) (args : List String) (run : Run) : Run :=
  let table : OptionTable :=
    { short := "k:s:v"
      long := [("kill-after", .required, 'k'), ("signal", .required, 's'), ("verbose", .nothing, 'v'),
        ("foreground", .nothing, 'f'), ("preserve-status", .nothing, 'p')]
      stopsEarly := true }
  withOptions table 125 args run fun given run =>
    let signal? := Signal.ofText? 1 ((given.value? 's').getD "TERM")
    match given.operands, signal? with
    | _, none =>
      misuseWith 125 run (quoted ((given.value? 's').getD "") ++ ": invalid signal")
    | [], _ | [_], _ =>
      (run.write 2 ("Try '" ++ run.process.name ++ " --help' for more information.\n")).ended 125
    | time :: name :: rest, some signal =>
      match sleepTime? time with
      | none => misuseWith 125 run ("invalid time interval '" ++ time ++ "'")
      | some length =>
        let outer := run.machine.limit
        let deadline : Option Nat := match length with
          | some 0 | none => none
          | some length => some (run.machine.clock + length)
        let limit : Option Nat := match deadline, outer with
          | some a, some b => some (min a b)
          | a, b => a.orElse fun _ => b
        let begun := run.onMachine fun machine => { machine with limit }
        let (outcome, after) := carryOut launch name rest begun
        let after := after.onMachine fun machine => { machine with limit := outer }
        if after.isEndless then
          match deadline with
          | none => after
          | some deadline =>
            if outer.any (· ≤ deadline) then after
            else
              let after := { after with control := .proceed }.onMachine fun machine =>
                { machine with clock := deadline }
              if given.has 'v' then
                failWith 124 after ("sending signal " ++ Signal.name signal ++ " to command " ++
                  quoted name)
              else if signal = 9 then { after with control := .killed 9 after.process.number }
              else after.ended (if given.has 'p' then 128 + signal else 124)
        else
          match outcome with
          | .exited status => after.ended status
          | .killed signal =>
            if after.goesOn then
              { after with control := .killed signal after.process.number }
            else after
          | .refused fault =>
            failWith fault.status after ("failed to run command " ++ quoted name ++ ": " ++ fault.reason)

/-! ## Arguments from the input -/

/-- The options of `xargs`. -/
def argumentTable : OptionTable :=
  { short := "0a:d:E:e::I:i::L:l::n:oP:prs:tx"
    long :=
      [("null", .nothing, '0'), ("arg-file", .required, 'a'), ("delimiter", .required, 'd'),
        ("eof", .optional, 'e'), ("replace", .optional, 'i'), ("max-lines", .optional, 'l'),
        ("max-args", .required, 'n'), ("max-procs", .required, 'P'), ("interactive", .nothing, 'p'),
        ("no-run-if-empty", .nothing, 'r'), ("max-chars", .required, 's'), ("verbose", .nothing, 't'),
        ("exit", .nothing, 'x'), ("open-tty", .nothing, 'o')]
    stopsEarly := true }

/-- An argument that was read, and whether it ends a line. -/
abbrev ReadArgument := String × Bool

/-- The arguments in a text of words that blanks divide and that may be quoted; or the quote that is
left open. `word` is the one being read. `fuel` is more than the length of the text. -/
def readArguments (quote : Option Char) (word : Option (List Char)) :
    (fuel : Nat) → List Char → List ReadArgument × Option Char
  | 0, _ => ([], none)
  | _, [] =>
    match quote, word with
    | some q, _ => ([], some q)
    | none, some reversed => ([(String.ofList reversed.reverse, true)], none)
    | none, none => ([], none)
  | fuel + 1, c :: rest =>
    let added (c : Char) : Option (List Char) := some (c :: word.getD [])
    match quote with
    | some q =>
      if c == q then readArguments none (some (word.getD [])) fuel rest
      else if c == '\n' then ([], some q)
      else readArguments quote (added c) fuel rest
    | none =>
      if c == '\'' || c == '"' then readArguments (some c) (some (word.getD [])) fuel rest
      else if c == ' ' || c == '\t' || c == '\n' then
        match word with
        | none => readArguments none none fuel rest
        | some reversed =>
          -- blanks at the end of a line join it to the next one
          let (more, fault) := readArguments none none fuel rest
          ((String.ofList reversed.reverse, c == '\n') :: more, fault)
      else
        match c, rest with
        | '\\', d :: more => readArguments none (added d) fuel more
        | _, _ => readArguments none (added c) fuel rest

/-- The lines of a text as arguments: without blanks at their front, and without empty ones. -/
def readLines (quote : Option Char) (word : List Char) :
    (fuel : Nat) → List Char → List String × Option Char
  | 0, _ => ([], none)
  | _, [] =>
    match quote with
    | some q => ([], some q)
    | none => (if word.isEmpty then [] else [String.ofList word.reverse], none)
  | fuel + 1, c :: rest =>
    match quote with
    | some q =>
      if c == q then readLines none word fuel rest
      else if c == '\n' then ([], some q)
      else readLines quote (c :: word) fuel rest
    | none =>
      if c == '\'' || c == '"' then readLines (some c) word fuel rest
      else if c == '\n' then
        let (more, fault) := readLines none [] fuel rest
        (if word.isEmpty then more else String.ofList word.reverse :: more, fault)
      else if (c == ' ' || c == '\t') && word.isEmpty then readLines none word fuel rest
      else
        match c, rest with
        | '\\', d :: more => readLines none (d :: word) fuel more
        | _, _ => readLines none (c :: word) fuel rest

/-- Divides arguments into groups: by their count, by lines, and by the octets they take. `used` are
the octets of the group that is being filled, `lines` the lines that it holds. -/
def argumentGroups (count lines : Option Nat) (room : Nat) (reversed : List String)
    (used ended : Nat) : List ReadArgument → List (List String)
  | [] => if reversed.isEmpty then [] else [reversed.reverse]
  | (argument, endsLine) :: rest =>
    let size := argument.length + 1
    let isFull := count.any (reversed.length ≥ ·) || lines.any (ended ≥ ·) || used + size > room
    let ends := if endsLine then 1 else 0
    if isFull && !reversed.isEmpty then
      reversed.reverse :: argumentGroups count lines room [argument] size ends rest
    else argumentGroups count lines room (argument :: reversed) (used + size) (ended + ends) rest

/-- Starts one program after another, with the status for all of them. -/
def carryOutAll (launch : Launcher) (given : Given) (status : Nat) :
    List (List String) → Run → Run
  | [], run => run.ended status
  | words :: rest, run =>
    match words with
    | [] => run.ended status
    | name :: args =>
      let run := if given.has 't' then run.write 2 (" ".intercalate words ++ "\n") else run
      let (outcome, run) := carryOut launch name args run
      if !run.goesOn then run
      else
        match outcome with
        | .exited 0 => carryOutAll launch given status rest run
        | .exited 255 => failWith 124 run (name ++ ": exited with status 255; aborting")
        | .exited _ => carryOutAll launch given 123 rest run
        | .killed signal =>
          failWith 125 run (name ++ ": terminated by signal " ++ toString signal)
        | .refused fault => failWith fault.status run (name ++ ": " ++ fault.reason)

/-- How many octets the words of one program may take. -/
def wordRoom : Nat := 131072

/-- The character that a text stands for which divides arguments. -/
def delimiterOf (text : String) : Char :=
  match text.toList with
  | ['\\', 'n'] => '\n'
  | ['\\', 't'] => '\t'
  | ['\\', '0'] => Char.ofNat 0
  | ['\\', '\\'] => '\\'
  | c :: _ => c
  | [] => '\n'

/-- Starts programs with arguments that are read from the input. -/
def xargs (launch : Launcher) (args : List String) (run : Run) : Run :=
  withOptions argumentTable 1 args run fun given run =>
    let badNumber := ['n', 'L', 's', 'P'].findSome? fun letter =>
      (given.values letter).findSome? fun text =>
        match text.toNat? with
        | none => some ("invalid number \"" ++ text ++ "\" for -" ++ String.ofList [letter] ++ " option")
        | some 0 =>
          if letter == 'P' then none
          else some ("value 0 for -" ++ String.ofList [letter] ++ " option should be >= 1")
        | some _ => none
    match badNumber with
    | some text => misuse run text
    | none =>
      let command := if given.operands.isEmpty then ["echo"] else given.operands
      let place := (given.value? 'I').orElse fun _ =>
        if given.has 'i' then some ((given.value? 'i').getD "\x7b\x7d") else none
      let isApart := given.hasAny ['0', 'd']
      let stop := if given.has '0' then Char.ofNat 0 else delimiterOf ((given.value? 'd').getD "\n")
      match contents run ((given.value? 'a').getD "-") with
      | (.error fault, run) =>
        match given.value? 'a' with
        | some name => fail run ("Cannot open input file " ++ quoted name ++ ": " ++ faultText fault)
        | none => fail run ("read error: " ++ faultText fault)
      | (.ok text, run) =>
        let isEndless := run.control == .exhausted
        let before := run.process.channel? 0
        let begun := { run with
          control := if isEndless then .proceed else run.control
          process := if given.has 'a' then run.process else run.process.setChannel 0 .nothing }
        let characters := text.toList
        let fuel := characters.length + 1
        let count := (given.value? 'n').bind String.toNat?
        let lines := ((given.value? 'L').orElse fun _ =>
          if given.has 'l' then some ((given.value? 'l').getD "1") else none).bind String.toNat?
        let room := min wordRoom (((given.value? 's').bind String.toNat?).getD wordRoom)
        let own := (command.map fun word => word.length + 1).foldl (· + ·) 0
        let ending := given.value? 'E' |>.orElse fun _ => given.value? 'e'
        let (calls, fault) : List (List String) × Option Char :=
          match place with
          | some place =>
            let (items, fault) := if isApart then (recordsOf stop text, none)
              else readLines none [] fuel characters
            (items.map fun item => match command with
              | [] => []
              | name :: rest => name :: rest.map fun word =>
                  if place.isEmpty then word else word.replace place item, fault)
          | none =>
            let (items, fault) := if isApart then
                ((recordsOf stop text).map fun item => (item, true), none)
              else readArguments none none fuel characters
            let items := match ending with
              | some ending => items.takeWhile fun (item, _) => item != ending
              | none => items
            let groups := argumentGroups count lines (room - own) [] 0 0 items
            let groups := if groups.isEmpty && !given.has 'r' && fault.isNone then [[]] else groups
            (groups.map fun group => command ++ group, fault)
        let run := carryOutAll launch given 0 calls begun
        let run := match before with
          | some channel => run.onProcess fun process => process.setChannel 0 channel
          | none => run
        if !run.goesOn then run
        else if isEndless then run.exhausting
        else
          match fault with
          | some q =>
            fail run ("unmatched " ++ (if q == '"' then "double" else "single") ++
              " quote; by default quotes are special to xargs unless you use the -0 option")
          | none => run

end RunMeter.Shell.Tool
