import RunMeter.Shell.Builtin
import RunMeter.Shell.Expansion
import RunMeter.Shell.Reader
import RunMeter.Shell.Redirecting
import RunMeter.Shell.Starting
import RunMeter.Shell.Tool

/-!
# Running scripts

`Run.program` runs a program with its arguments in a process of its own, and the functions around it
run the statements of scripts. All of them take a bound on how deep they may go; a run that reaches
the bound counts as one that never ends.

The commands of a pipeline are played through one after another, each with what the one before has
written as its input. One that never ends has written only the beginning of an endless input, and ends
with those that read it. Jobs in the background are played through where they are started, on the
clock of that moment; the clock is then set back, and what they have written keeps its times.
-/

set_option autoImplicit false

namespace RunMeter.Shell

namespace Run

/-- How many functions a command can stand in. -/
def maxCalls : Nat := 1000

/-- Ends the script if a failure has to end it. -/
def checked (run : Run) : Run :=
  if run.goesOn && run.process.isSet 'e' && run.process.tests = 0 && run.process.status != 0 then
    run.leaving run.process.status
  else run

/-- Counts the conditions that the current command stands in. -/
def inTest (run : Run) : Run :=
  run.onProcess fun process => { process with tests := process.tests + 1 }

/-- Leaves one condition. -/
def outOfTest (run : Run) : Run :=
  run.onProcess fun process => { process with tests := process.tests - 1 }

/-- What a loop does after a part of it has run: whether it ends, and the run. -/
def afterRound (run : Run) : Bool × Run :=
  match run.control with
  | .proceed => (false, run)
  | .breakOut (n + 2) => (true, { run with control := .breakOut (n + 1) })
  | .breakOut _ => (true, { run with control := .proceed })
  | .nextRound (n + 2) => (true, { run with control := .nextRound (n + 1) })
  | .nextRound _ => (false, { run with control := .proceed })
  | _ => (true, run)

/-- Enters a loop. -/
def inLoop (run : Run) : Run :=
  run.onProcess fun process => { process with loops := process.loops + 1 }

/-- Leaves a loop. -/
def outOfLoop (run : Run) : Run :=
  run.onProcess fun process => { process with loops := process.loops - 1 }

/-- Sets the command of the shell that is being carried out. -/
def named (command : String) (run : Run) : Run :=
  run.onProcess fun process => { process with command }

/-- What a stage of a pipeline has written, as the input of the next one. -/
def writtenBy (child : Run) (sink : Nat) : Source :=
  let clock := child.machine.clock
  let closesAt := (child.machine.closingTime? [sink] clock).getD (child.machine.limit.getD clock)
  let rest := (child.machine.collected sink).toList
  { rest, closesAt, isEndless := child.control == .exhausted && !rest.isEmpty }

/-- The run after a stage of a pipeline other than the last one. A stage that never ends does so when
nobody reads what it writes. -/
def afterStage (run child : Run) (isEndless : Bool) : Run :=
  if isEndless then { run with machine := child.machine } else run.after child

/-- Looks for the script that a name without slashes leads to along the search path. -/
def sourced (run : Run) (name : String) : Except String String :=
  let readable? (file : String) : Option String :=
    match run.node file with
    | .ok (.file content _) => some (Text.octetsOfBytes content)
    | .ok _ => some ""
    | .error _ => none
  if name.contains '/' then
    match readable? name with
    | some text => .ok text
    | none => .error ("cannot open " ++ name ++ ": No such file")
  else
    let directories := ((run.process.value? "PATH").getD "").splitOn ":"
    match directories.findSome? fun directory => readable? (nameIn directory name) with
    | some text => .ok text
    | none => .error (name ++ ": not found")

/-- Cuts a pattern off one end of a text. -/
def cut (side : Side) (isLongest : Bool) (pattern : List Piece) (text : String) : String :=
  let pattern := Pattern.ofMarks (Piece.marks pattern)
  match side with
  | .front => String.ofList (pattern.cutFront isLongest text.toList)
  | .back => String.ofList (pattern.cutBack isLongest text.toList)

/-- The fields of a row of pieces, with names of files for patterns. -/
def fieldsOf (run : Run) (pieces : List Piece) : List String :=
  let fields := Piece.split run.separators pieces
  if run.process.isSet 'f' then fields.map Field.text else fields.flatMap (Field.expand run)

/-- Puts back variables as they were. -/
def restored (before : List (String × Option Variable)) (run : Run) : Run :=
  before.foldl (fun run (name, entry) => run.onProcess fun process => process.restore name entry) run

/-- Puts back the descriptors as they were. -/
def withDescriptors (descriptors : List (Nat × Channel)) (run : Run) : Run :=
  run.onProcess fun process => { process with descriptors }

/-- Shows a command before it is carried out, where the descriptors led before its redirections. -/
def traced (descriptors : List (Nat × Channel)) (assignments : List (String × String))
    (fields : List String) (run : Run) : Run :=
  if run.process.isSet 'x' then
    let now := run.process.descriptors
    ((run.withDescriptors descriptors).write 2 (run.traceLine assignments fields)).withDescriptors now
  else run

/-- Whether the process has come to its end in a way that leaves it nothing more to do. -/
def isCutOff (run : Run) : Bool :=
  run.isEndless ||
    match run.control with
    | .killed _ _ => true
    | _ => false

/-! ## What the extended dialect adds -/

/-- The words that stand for others where a command begins. -/
def aliasesInUse (run : Run) : List (String × String) :=
  if run.process.isExtended && !run.process.isOn "expand_aliases" then [] else run.process.aliases

/-- Goes on with the next line if a fault has ended one. -/
def afterLine (run : Run) : Run :=
  if run.control == .discarded then { run with control := .proceed } else run

/-- Complains that a script of the extended dialect cannot be read any further. -/
def unreadable (cursor : Cursor) (line : Nat) (fault : ScriptFault) (run : Run) : Run :=
  let isOpen := cursor.rest.getLast? != some '\n'
  let line := if fault.isAtEnd && isOpen then line + 1 else line
  let label := if run.process.label.isEmpty then "" else run.process.label ++ ": "
  let lead := run.process.speaker ++ ": " ++ label ++ "line " ++ toString line ++ ": "
  let (text, isShown) := fault.extendedMessage
  let lines := (String.ofList cursor.rest).splitOn "\n"
  let row := lines.getD (line - cursor.line) ""
  let reason := (fault.reason?.map fun reason => lead ++ reason ++ "\n").getD ""
  let run := run.write 2 (reason ++ lead ++ text ++ "\n" ++
    if isShown then lead ++ "\x60" ++ row ++ "'\n" else "")
  { run.ended (if fault == .unclosedList then 1 else 2) with control := .unread }

/-- The lines of a script between two positions. -/
def consumed (before after : Cursor) : String :=
  let taken := before.rest.take (before.rest.length - after.rest.length)
  let taken := if before.line = 1 then taken else taken.drop 1
  String.ofList taken ++ "\n"

/-- Says what there is to be said about a script before it goes on. -/
def warned (run : Run) (warnings : List (Nat × String)) : Run :=
  warnings.foldl
    (fun run (line, text) =>
      run.write 2 (run.process.speaker ++ ": line " ++ toString line ++ ": warning: " ++ text ++ "\n"))
    run

/-- Goes on behind a script that could not be read to its end. -/
def afterUnread (run : Run) : Run :=
  if run.control == .unread then { run with control := .proceed } else run

/-- Notes that something follows the current command. -/
def notLast (run : Run) : Run := run.onProcess fun process => { process with isLast := false }

/-- What stands in place of a parameter that cannot be read. -/
def improperText (name : String) : ParameterReading → String
  | .improper text => if text.isEmpty then name else text
  | _ => name

/-- Notes the outcomes of the members of a pipeline. -/
def withOutcomes (outcomes : List Nat) (run : Run) : Run :=
  run.onProcess fun process => { process with outcomes }

/-- Notes the outcome of a command that is the only member of its pipeline. -/
def noted (run : Run) : Run :=
  if run.process.isExtended then run.withOutcomes [run.process.status] else run

/-- What the name of a parameter leads to. -/
inductive Holding
  | one (value : Option String)
  /-- Several values with their subscripts. -/
  | several (items : List (String × String)) (isJoined : Bool)

/-- What a name leads to: all arguments, or a single value. -/
def holding (run : Run) (name : String) : Holding :=
  if name == "@" || name == "*" then
    .several (run.process.arguments.mapIdx fun i text => (toString (i + 1), text)) (name == "*")
  else .one (run.held? maxDepth name)

/-- All elements of a variable. -/
def elementsOf (run : Run) (name : String) (isJoined : Bool) : Holding :=
  let entry := run.binding? (run.meant name maxDepth)
  .several ((entry.map Variable.elements).getD []) isJoined

/-- The same with every value changed. -/
def Holding.map (f : String → String) : Holding → Holding
  | .one value => .one (value.map f)
  | .several items isJoined => .several (items.map fun (key, value) => (key, f value)) isJoined

/-- The pieces of what a name leads to. -/
def holdingPieces (run : Run) (isQuoted : Bool) : Holding → List Piece
  | .one value => Piece.ofText isQuoted (value.getD "")
  | .several items isJoined => run.severalPieces (items.map (·.2)) isJoined isQuoted

/-- How a complaint names a parameter without a value. -/
def missingName (name : String) : String :=
  if name.toList.all Char.isDigit then "$" ++ name else name

/-- A part of a text, from a place on that counts from the end if it is below zero. A length below zero
means a place before the end. -/
def textPart (text : String) (start : Int) (length : Option Int) : Except String String :=
  let size : Int := text.length
  let begin := if start < 0 then start + size else start
  if begin < 0 || size < begin then .ok ""
  else
    let stop := match length with
      | none => size
      | some length => if length < 0 then size + length else min size (begin + length)
    if stop < begin then .error (toString (length.getD 0) ++ ": substring expression < 0")
    else .ok (String.ofList ((text.toList.drop begin.toNat).take (stop - begin).toNat))

/-- Some of several items, from a subscript on. The item with the subscript zero comes before arguments
that are counted from one. -/
def itemsPart (first : Option String) (items : List (String × String)) (start : Int)
    (length : Option Int) : Except String (List (String × String)) :=
  let last : Int := ((items.getLast?.bind fun (key, _) => key.toNat?).map fun n => (n : Int)).getD (-1)
  let begin := if start < 0 then start + last + 1 else start
  let all := match first with
    | some text => if begin = 0 then ("0", text) :: items else items
    | none => items
  let from' := all.filter fun (key, _) => begin ≤ ((key.toNat?.getD 0 : Nat) : Int)
  if begin < 0 then .ok []
  else
    match length with
    | none => .ok from'
    | some length =>
      if length < 0 then .error (toString length ++ ": substring expression < 0")
      else .ok (from'.take length.toNat)

/-- What takes the place of a piece that fits: `&` without quotes stands for the piece. -/
def replacementOf (pieces : List Piece) (found : List Char) : List Char :=
  (Piece.marks pieces).flatMap fun (c, isQuoted) => if c == '&' && !isQuoted then found else [c]

/-- A text with pieces that fit replaced. -/
def replacedIn (extent : Extent) (pattern replacement : List Piece) (text : String) : String :=
  let pattern := Pattern.ofMarks (Piece.marks pattern)
  let put := replacementOf replacement
  let characters := text.toList
  String.ofList
    (match extent with
    | .first => pattern.replaceWithin put false (characters.length + 1) characters
    | .every => pattern.replaceWithin put true (characters.length + 1) characters
    | .atFront =>
      match pattern.longest? characters with
      | some n => put (characters.take n) ++ characters.drop n
      | none => characters
    | .atBack =>
      match (List.range (characters.length + 1)).find? fun n => pattern.accepts (characters.drop n) with
      | some n => characters.take n ++ put (characters.drop n)
      | none => characters)

/-- A text with other letters. -/
def recasedText (isUpper isWhole : Bool) (text : String) : String :=
  let change (c : Char) : Char := if isUpper then c.toUpper else c.toLower
  match text.toList with
  | [] => ""
  | c :: rest => String.ofList (change c :: if isWhole then rest.map change else rest)

/-- A word as it stands in a script, if it is simple. -/
def wordSource (word : Word) : String :=
  String.join (word.map fun part =>
    match part with
    | .text characters _ => characters
    | .parameter name .value _ => if isName name then "$" ++ name else "$\x7b" ++ name ++ "\x7d"
    | _ => "")

/-- The descriptor that is given to the output of a script that stands for a file: the highest one that
is free. -/
def freeDescriptor (run : Run) : Nat :=
  ((List.range 61).find? fun i => (run.process.channel? (63 - i)).isNone).elim 63 (63 - ·)

/-- The working of a file that stands alone between the parentheses of a substitution. -/
def fedFile? (statements : List Statement) : Option Word :=
  match statements with
  | [.simple _ [] [] [.change 0 .read target] []] => some target
  | _ => none

/-- The time that a statement took, as it is reported. -/
def timeReport (isCommon : Bool) (milliseconds : Nat) : String :=
  let seconds := milliseconds / 1000
  let rest := toString (milliseconds % 1000)
  let filled := String.ofList (List.replicate (3 - rest.length) '0') ++ rest
  if isCommon then
    "real " ++ toString seconds ++ "." ++ (filled.take 2).toString ++ "\nuser 0.00\nsys 0.00\n"
  else
  "\nreal\t" ++ toString (seconds / 60) ++ "m" ++ toString (seconds % 60) ++ "." ++ filled ++
    "s\nuser\t0m0.000s\nsys\t0m0.000s\n"

/-- Shows a statement before it is carried out. -/
def tracedAs (text : String) (run : Run) : Run :=
  if run.process.isSet 'x' && run.process.isExtended then run.write 2 (run.traceLead ++ text ++ "\n")
  else run

/-- The file that a name leads to for a script that is to be carried out here: along the search path
unless there is a slash in it, and then in the working directory. -/
def scriptFile (run : Run) (name : String) : Except String (String × String) :=
  let read (file : String) : Option (Except String (String × String)) :=
    match run.node file with
    | .ok (.file content _) => some (.ok (file, Text.octetsOfBytes content))
    | .ok (.directory _) => some (.error "is a directory")
    | .ok _ => some (.ok (file, ""))
    | .error _ => none
  let directories := if name.contains '/' then []
    else (((run.process.value? "PATH").getD "").splitOn ":").filter (!·.isEmpty)
  let found := directories.findSome? fun directory =>
    match read (nameIn directory name) with
    | some (.ok found) => some (Except.ok found)
    | _ => none
  (found.orElse fun _ => read name).getD (.error "No such file or directory")

/-- The status of a program that cannot be started, and the wording for it. -/
def startFault (run : Run) (name : String) (fault : LaunchFault) : Nat × String :=
  let isDirectory := run.asksFile "-d" name && name.contains '/'
  let hasPath := run.process.value? "PATH" |>.any (!·.isEmpty)
  match fault with
  | .notPermitted => (126, name ++ if isDirectory then ": Is a directory" else ": Permission denied")
  | .missing .notFound =>
    if name.contains '/' || !hasPath || name.isEmpty then (127, name ++ ": No such file or directory")
    else (127, name ++ ": command not found")
  | fault => (fault.status, name ++ ": " ++ fault.reason)

/-- The run in which a program is told what it is called and how deep it stands. -/
def tellingName (found : String) (run : Run) : Run :=
  if run.process.isExtended then
    run.onProcess fun process =>
      let process := process.setExported "_" found
      if process.isLast then
        let level := ((process.value? "SHLVL").bind String.toNat?).getD 1
        process.setExported "SHLVL" (toString (level - 1))
      else process
  else run

mutual

/-- Runs a program that was found, in the process that it becomes. -/
def enter (fuel : Nat) (located : Located) (name : String) (args : List String) (run : Run) : Run :=
  match fuel with
  | 0 => run.exhausting
  | fuel + 1 =>
    match located with
    | .tool "dash" => (run.asProgram name args).shell fuel args
    | .tool "bash" => (run.asProgram name args).extendedShell fuel args
    | .tool "kill" => Builtin.kill args (run.asProgram name args)
    | .tool tool =>
      match Tool.launching? tool with
      | some start =>
        start (fun name args run => run.program fuel standardDirectories name args) args
          (run.asProgram name args)
      | none => (Tool.run? tool args (run.asProgram name args)).getD (run.ended 127)
    | .script path text =>
      match interpreter? text with
      | some (program :: arguments) =>
        match run.programAt program with
        | .ok located => run.enter fuel located program (arguments ++ path :: args)
        | .error fault => (run.asProgram name args).ended fault.status
      | _ =>
        if run.process.isExtended then
          (run.asProgram path args).extendedShell fuel (path :: args)
        else (run.asProgram "/bin/sh" (path :: args)).shell fuel (path :: args)

/-- Runs a program in a process of its own: the run of that process, if it could be started.
`directories` are searched if the environment names none. -/
def program (fuel : Nat) (directories name : String) (args : List String) (run : Run) :
    Except LaunchFault Run :=
  match fuel with
  | 0 => .ok run.exhausting
  | fuel + 1 =>
    match run.locateProgram directories name with
    | .error fault => .error fault
    | .ok (_, located) => .ok (run.enter fuel located name args)

/-- Runs a shell with its arguments. -/
def shell (fuel : Nat) (args : List String) (run : Run) : Run :=
  match fuel with
  | 0 => run.exhausting
  | fuel + 1 =>
    let run := run.begun
    match shellOptions (args.length + 1) false args run with
    | .error text => run.misuse text
    | .ok (request, run) =>
      match request.takesScript, request.words with
      | true, [] => run.misuse "-c requires an argument"
      | true, script :: rest =>
        run.script fuel (rest.headD run.process.name) (rest.drop 1) script
      | false, words =>
        if words.isEmpty || run.process.isSet 's' then
          let run := run.onProcess fun process => process.setOption true 's'
          let (text, run) := run.readAll 0
          if run.goesOn then run.script fuel run.process.name words text else run
        else
          match run.node (words.headD "") with
          | .ok (.file content _) =>
            run.script fuel (words.headD "") (words.drop 1) (Text.octetsOfBytes content)
          | .ok _ => run.ended 0
          | .error _ => run.misuse ("cannot open " ++ words.headD "" ++ ": No such file")

/-- Runs a shell of the extended dialect with its arguments. -/
def extendedShell (fuel : Nat) (args : List String) (run : Run) : Run :=
  match fuel with
  | 0 => run.exhausting
  | fuel + 1 =>
    let run := run.begunExtended
    let name := run.process.name
    let fail (status : Nat) (text : String) : Run := (run.write 2 text).ended status
    match extendedOptions (args.length + 1) false args run with
    | .error text => fail 2 (name ++ ": " ++ text)
    | .ok (request, run) =>
      match request.takesScript, request.words with
      | true, [] => fail 2 (name ++ ": -c: option requires an argument\n")
      | true, script :: rest =>
        let run := run.onProcess fun process => { process.setOption true 'c' with label := "-c" }
        run.script fuel (rest.headD name) (rest.drop 1) script
      | false, words =>
        if words.isEmpty || run.process.isSet 's' then
          let run := run.onProcess fun process => process.setOption true 's'
          let (text, run) := run.readAll 0
          if run.goesOn then run.script fuel name words text else run
        else
          let file := words.headD ""
          match run.scriptFile file with
          | .ok (found, text) =>
            let run := run.onProcess fun process =>
              { process with origin := found }.restore "BASH_SOURCE" (some (listOf [found]))
            run.script fuel found (words.drop 1) text
          | .error "is a directory" => fail 126 (file ++ ": " ++ file ++ ": Is a directory\n")
          | .error text => fail 127 (name ++ ": " ++ file ++ ": " ++ text ++ "\n")

/-- Runs a whole script in a shell of its own. -/
def script (fuel : Nat) (name : String) (arguments : List String) (text : String) (run : Run) : Run :=
  match fuel with
  | 0 => run.exhausting
  | fuel + 1 =>
    let run := run.onProcess fun process => { process with name, arguments }
    (run.text fuel { rest := text.toList }).closeShell fuel

/-- Runs a script from a position in its text on. -/
def text (fuel : Nat) (cursor : Cursor) (run : Run) : Run :=
  match fuel with
  | 0 => run.exhausting
  | fuel + 1 =>
    if run.goesOn then
      let cursor := { cursor with aliases := run.aliasesInUse, dialect := run.process.dialect }
      match cursor.nextLine with
      | .error (line, fault) =>
        if run.process.isExtended then run.unreadable cursor line fault
        else (run.onProcess fun process => { process with line }).fatal fault.message
      | .ok none => run
      | .ok (some (row, next)) =>
        let isLast := next.rest.all fun c => c == '\n' || c == ' '
        let run := (run.warned next.warnings).onProcess fun process =>
          { process with isLast := isLast && process.label == "-c" && process.traps.isEmpty }
        let run := if run.process.isSet 'v' then run.write 2 (consumed cursor next) else run
        let before := row.dropLast
        let isLast := run.process.isLast
        let run := if before.isEmpty then run else run.notLast.all fuel before
        let run := if run.goesOn then
            (run.onProcess fun process => { process with isLast }).all fuel (row.drop before.length)
          else run
        run.afterLine.text fuel { next with warnings := [] }
    else run

/-- Ends a shell: what its trap for the end asks for is still done. -/
def closeShell (fuel : Nat) (run : Run) : Run :=
  match fuel with
  | 0 => run.exhausting
  | fuel + 1 =>
    match run.process.traps.lookup 0 with
    | none => run
    | some action =>
      if run.isCutOff then run
      else
        let status := run.process.status
        let run := (run.onProcess fun process =>
          { process with traps := Builtin.withoutTraps process.traps [0] }).named ""
        let run := { run with control := .proceed }.text fuel { rest := action.toList }
        if run.control == .proceed then run.leaving status else run

/-- Does what a process has asked for when it gets a signal. -/
def caught (fuel : Nat) (run : Run) : Run :=
  match fuel with
  | 0 => run.exhausting
  | fuel + 1 =>
    match run.control with
    | .killed signal target =>
      if target = run.process.number && signal != 9 then
        match run.process.traps.lookup signal with
        | none => run
        | some action =>
          let status := run.process.status
          let run := { run with control := .proceed }.text fuel { rest := action.toList }
          if run.goesOn then run.ended status else run
      else run
    | _ => run

/-- Runs statements one after another. -/
def all (fuel : Nat) (statements : List Statement) (run : Run) : Run :=
  match fuel with
  | 0 => run.exhausting
  | fuel + 1 =>
    match statements with
    | [] => run
    | statement :: rest =>
      let run := run.statement fuel statement
      if run.goesOn then run.all fuel rest else run

/-- Runs statements in a process of their own, and gives its run at the end. -/
def part (fuel : Nat) (statements : List Statement) (run : Run) : Run :=
  match fuel with
  | 0 => run.exhausting
  | fuel + 1 => (run.asPart.all fuel statements).closeShell fuel

/-- What statements write, without the line ends at its end. -/
def capture (fuel : Nat) (statements : List Statement) (run : Run) : String × Run :=
  match fuel with
  | 0 => ("", run.exhausting)
  | fuel + 1 =>
    let (sink, machine) := run.machine.fresh
    let child := { run with machine }.onProcess fun process =>
      let process := { process.setChannel 1 (.sink sink) with nesting := process.nesting + 1 }
      if process.isExtended && !process.isOn "inherit_errexit" then process.setOption false 'e'
      else process
    let child := match run.process.isExtended, fedFile? statements with
      | true, some target =>
        let child := child.asPart
        let (name, child) := child.expandText fuel target
        let (succeeds, child) := child.openFile 0 .read name
        if succeeds then
          let (text, child) := child.readAll 0
          (child.print text).ended 0
        else child
      | _, _ => child.part fuel statements
    let written := (child.machine.collected sink).toList.filter (· != Char.ofNat 0)
    let trimmed := String.ofList (written.reverse.dropWhile (· == '\n')).reverse
    let closing := child.machine.closingTime? [sink] child.machine.clock
    let status := run.process.status
    let run := run.after (child.onMachine fun machine => machine.forget sink)
    let run := run.onProcess fun process => { process with status, captured := process.status }
    match closing with
    | some time => (trimmed, run.waitUntil time)
    | none => (trimmed, run.exhausting)

/-- Expands a part of a word. -/
def expandPart (fuel : Nat) (part : WordPart) (run : Run) : List Piece × Run :=
  match fuel with
  | 0 => ([], run.exhausting)
  | fuel + 1 =>
    match part with
    | .text characters true => (Piece.quoted characters, run)
    | .text characters false => (characters.toList.map fun c => .mark c false false, run)
    | .output statements isQuoted =>
      let (written, run) := run.capture fuel statements
      (Piece.ofText isQuoted written, run)
    | .sum expression isQuoted => run.expandSum fuel expression isQuoted
    | .home user => (run.homePieces user, run)
    | .whole parts =>
      let (text, run) := run.expandText fuel parts
      (Piece.quoted text, run)
    | .parameter name reading isQuoted =>
      if run.process.isExtended then
        run.expandHolding fuel name (run.holding name) reading isQuoted
      else run.expandParameter fuel name reading isQuoted
    | .fed statements =>
      let (sink, machine) := run.machine.fresh
      let child := { run with machine }.onProcess fun process => process.setChannel 1 (.sink sink)
      let child := child.part fuel statements
      let source := writtenBy child sink
      let run := { run with machine := child.machine.forget sink }
      let descriptor := run.freeDescriptor
      (Piece.quoted ("/dev/fd/" ++ toString descriptor), run.feed descriptor source)

/-- Expands an arithmetic expression. -/
def expandSum (fuel : Nat) (expression : List WordPart) (isQuoted : Bool) (run : Run) :
    List Piece × Run :=
  match fuel with
  | 0 => ([], run.exhausting)
  | fuel + 1 =>
    let (written, run) := run.expandText fuel expression
    if run.goesOn then
      if run.process.isExtended then
        match run.calculate written with
        | .error text => ([], run.giveUp text)
        | .ok (value, run) => (Piece.ofText isQuoted (toString value), run)
      else
      match Arithmetic.evaluate { lookup := run.parameter? } written with
      | .error fault => ([], run.fatal (fault.message written))
      | .ok (value, assigned) =>
        let run := assigned.foldr
          (fun (name, value) run =>
            if run.goesOn then Builtin.setVariable id name (toString value) run else run)
          run
        (Piece.ofText isQuoted (toString value), run)
    else ([], run)

/-- Expands a parameter. -/
def expandParameter (fuel : Nat) (name : String) (reading : ParameterReading) (isQuoted : Bool)
    (run : Run) : List Piece × Run :=
  match fuel with
  | 0 => ([], run.exhausting)
  | fuel + 1 =>
    let isAll := name == "@" || name == "*"
    let value : Option String :=
      if isAll then
        if run.process.arguments.isEmpty then none else some (" ".intercalate run.process.arguments)
      else run.parameter? name
    let pieces (value : String) : List Piece :=
      if isAll then run.allArguments name isQuoted else Piece.ofText isQuoted value
    let missing : List Piece × Run :=
      if run.process.isSet 'u' && !isAll then
        ([], run.fatal (name ++ ": parameter not set"))
      else (if isAll then run.allArguments name isQuoted else Piece.ofText isQuoted "", run)
    match reading with
    | .value =>
      match value with
      | some value => (pieces value, run)
      | none => missing
    | .length =>
      if isAll then
        (Piece.ofText isQuoted (toString run.process.arguments.length), run)
      else
        match value with
        | some value => (Piece.ofText isQuoted (toString value.length), run)
        | none => if run.process.isSet 'u' then missing else (Piece.ofText isQuoted "0", run)
    | .fallback kind ofEmpty word =>
      let isMissing := match value with
        | none => true
        | some value => ofEmpty && value.isEmpty
      if isMissing then run.expandMissing fuel name kind ofEmpty word isQuoted
      else if kind == .reversed then run.expandInstead fuel word isQuoted
      else (pieces (value.getD ""), run)
    | .trimmed side isLongest pattern =>
      match value with
      | none => missing
      | some value =>
        let (pieces, run) := run.expandParts fuel pattern
        (Piece.ofText isQuoted (cut side isLongest pieces value), run)
    | _ => ([], run.fatal "Bad substitution")

/-- Expands what the name of a parameter leads to in the extended dialect. -/
def expandHolding (fuel : Nat) (name : String) (holding : Holding) (reading : ParameterReading)
    (isQuoted : Bool) (run : Run) : List Piece × Run :=
  match fuel with
  | 0 => ([], run.exhausting)
  | fuel + 1 =>
    let isMissing := match holding with
      | .one none => true
      | _ => false
    let pieces (holding : Holding) (run : Run) : List Piece × Run :=
      (run.holdingPieces isQuoted holding, run)
    let needed (use : Run → List Piece × Run) : List Piece × Run :=
      if isMissing && run.process.isSet 'u' then
        ([], run.miss (missingName name ++ ": unbound variable"))
      else use run
    let number (word : Word) (run : Run) : Option Int × Run :=
      let (text, run) := run.expandText fuel word
      match run.goesOn, run.calculate text with
      | false, _ => (none, run)
      | true, .error text => (none, run.giveUp text)
      | true, .ok (value, run) => (some value, run)
    match reading with
    | .value => needed (pieces holding)
    | .length =>
      needed fun run =>
        match holding with
        | .one value => (Piece.ofText isQuoted (toString (value.getD "").length), run)
        | .several items _ => (Piece.ofText isQuoted (toString items.length), run)
    | .improper _ => ([], run.giveUp ("$\x7b" ++ improperText name reading ++ "\x7d: bad substitution"))
    | .fallback kind ofEmpty word =>
      let isUseless := match holding with
        | .one none => true
        | .one (some value) => ofEmpty && value.isEmpty
        | .several items _ => items.isEmpty || (ofEmpty && items.all fun (_, value) => value.isEmpty)
      if isUseless then run.expandMissing fuel name kind ofEmpty word isQuoted
      else if kind == .reversed then run.expandInstead fuel word isQuoted
      else pieces holding run
    | .trimmed side isLongest pattern =>
      needed fun run =>
        let (cutting, run) := run.expandParts fuel pattern
        pieces (holding.map (cut side isLongest cutting)) run
    | .replaced extent pattern replacement =>
      needed fun run =>
        let (sought, run) := run.expandParts fuel pattern
        let (put, run) := run.expandParts fuel replacement
        pieces (holding.map (replacedIn extent sought put)) run
    | .recased isUpper isWhole => needed (pieces (holding.map (recasedText isUpper isWhole)))
    | .requoted => needed (pieces (holding.map Quoting.always))
    | .part start length =>
      needed fun run =>
        let (first, run) := number start run
        let (count, run) := match length with
          | some word => number word run
          | none => (none, run)
        match run.goesOn, first with
        | true, some first =>
          let found : Except String Holding := match holding with
            | .one value => (textPart (value.getD "") first count).map (.one ∘ some)
            | .several items isJoined =>
              let lead := if name == "@" || name == "*" then some run.process.name else none
              (itemsPart lead items first count).map fun items => .several items isJoined
          match found with
          | .ok holding => pieces holding run
          | .error text => ([], run.giveUp text)
        | _, _ => ([], run)
    | .element subscript inner =>
      let (text, run) := run.expandText fuel subscript
      if !run.goesOn then ([], run)
      else
        let name := run.meant name maxDepth
        match run.keyOf name text with
        | .error fault =>
          if fault.endsWith ": bad array subscript" then
            let run := run.complain (name ++ ": bad array subscript")
            run.expandHolding fuel name (.one (some "")) inner isQuoted
          else ([], run.giveUp fault)
        | .ok (key, run) =>
          let value := (run.binding? name).bind fun entry => entry.elements.lookup key
          run.expandHolding fuel (name ++ "[" ++ text ++ "]") (.one value) inner isQuoted
    | .elements isJoined inner =>
      run.expandHolding fuel name (run.elementsOf name isJoined) inner isQuoted
    | .subscripts isJoined =>
      match run.elementsOf name isJoined with
      | .several items isJoined =>
        pieces (.several (items.map fun (key, _) => (key, key)) isJoined) run
      | other => pieces other run
    | .names isJoined =>
      let all := (run.process.bindings.map (·.1)).filter fun other => other.startsWith name
      pieces (.several ((all.mergeSort fun a b => a ≤ b).map fun text => (text, text)) isJoined) run
    | .named inner =>
      match run.process.bindings.lookup name with
      | some { isReference := true, value := some target, .. } =>
        (Piece.ofText isQuoted target, run)
      | _ =>
        match run.holding name with
        | .one (some target) =>
          match splitSubscript target with
          | (base, some "@") => run.expandHolding fuel base (run.elementsOf base false) inner isQuoted
          | (base, some "*") => run.expandHolding fuel base (run.elementsOf base true) inner isQuoted
          | _ => run.expandHolding fuel target (run.holding target) inner isQuoted
        | _ => ([], run.giveUp (name ++ ": invalid indirect expansion"))

/-- Expands the word that stands in for a parameter. -/
def expandInstead (fuel : Nat) (word : Word) (isQuoted : Bool) (run : Run) : List Piece × Run :=
  match fuel with
  | 0 => ([], run.exhausting)
  | fuel + 1 =>
    let (pieces, run) := run.expandParts fuel word
    (if isQuoted then .presence :: pieces else pieces.map Piece.loosened, run)

/-- Expands a parameter that has no value of use. -/
def expandMissing (fuel : Nat) (name : String) (kind : Fallback) (ofEmpty : Bool) (word : Word)
    (isQuoted : Bool) (run : Run) : List Piece × Run :=
  match fuel with
  | 0 => ([], run.exhausting)
  | fuel + 1 =>
    match kind with
    | .word => run.expandInstead fuel word isQuoted
    | .reversed => (if isQuoted then [.presence] else [], run)
    | .assigned =>
      let (value, run) := run.expandText fuel word
      if !run.goesOn then ([], run)
      else if run.process.isExtended then
        if isName (splitSubscript name).1 then
          match run.putText name false value with
          | .ok run => (Piece.ofText isQuoted value, run)
          | .error text => ([], run.giveUp text)
        else ([], run.giveUp ("$" ++ name ++ ": cannot assign in this way"))
      else if isName name then
        (Piece.ofText isQuoted value, Builtin.setVariable id name value run)
      else ([], run.fatal (name ++ ": bad variable name"))
    | .complaint =>
      let (message, run) := run.expandText fuel word
      let message :=
        if word.isEmpty then
          if !ofEmpty then "parameter not set"
          else if run.process.isExtended then "parameter null or not set"
          else "parameter not set or null"
        else message
      ([], if run.goesOn then run.miss (name ++ ": " ++ message) else run)

/-- Expands the parts of a word. -/
def expandParts (fuel : Nat) (parts : List WordPart) (run : Run) : List Piece × Run :=
  match fuel with
  | 0 => ([], run.exhausting)
  | fuel + 1 =>
    match parts with
    | [] => ([], run)
    | part :: rest =>
      if run.goesOn then
        let (first, run) := run.expandPart fuel part
        let (more, run) := run.expandParts fuel rest
        (first ++ more, run)
      else ([], run)

/-- Expands a word to one text. -/
def expandText (fuel : Nat) (word : Word) (run : Run) : String × Run :=
  match fuel with
  | 0 => ("", run.exhausting)
  | fuel + 1 =>
    let (pieces, run) := run.expandParts fuel word
    (Piece.text pieces, run)

/-- Expands words to fields. -/
def expandFields (fuel : Nat) (words : List Word) (run : Run) : List String × Run :=
  match fuel with
  | 0 => ([], run.exhausting)
  | fuel + 1 =>
    match words with
    | [] => ([], run)
    | word :: rest =>
      let (pieces, run) := run.expandParts fuel word
      if run.goesOn then
        let fields := run.fieldsOf pieces
        let (more, run) := run.expandFields fuel rest
        (fields ++ more, run)
      else ([], run)

/-- Expands the items of a list with their subscripts. -/
def expandItems (fuel : Nat) (items : List (Option Word × Word)) (run : Run) :
    List (Option String × String) × Run :=
  match fuel with
  | 0 => ([], run.exhausting)
  | fuel + 1 =>
    match items with
    | [] => ([], run)
    | (subscript, word) :: rest =>
      let (first, run) := match subscript with
        | none =>
          let (texts, run) := run.expandFields fuel [word]
          (texts.map (none, ·), run)
        | some subscript =>
          let (key, run) := run.expandText fuel subscript
          let (value, run) := run.expandText fuel word
          ([(some key, value)], run)
      if run.goesOn then
        let (more, run) := run.expandItems fuel rest
        (first ++ more, run)
      else ([], run)

/-- Carries out one assignment, of a variable that programs inherit if `exports`; also gives the name and
the value. -/
def assignOne (fuel : Nat) (exports : Bool) (assignment : Assignment) (run : Run) :
    String × String × Run :=
  match fuel with
  | 0 => ("", "", run.exhausting)
  | fuel + 1 =>
    let mark (entry : Variable) : Variable :=
      { entry with isExported := entry.isExported || exports }
    let settle (name shown value : String) (done : Except String Run) (run : Run) :
        String × String × Run :=
      match done with
      | .error text => (shown, value, run.giveUp text)
      | .ok run =>
        let name := run.meant name maxDepth
        (shown, value, if exports then
            run.onProcess fun process =>
              process.restore name ((process.bindings.lookup name).map mark)
          else run)
    match assignment with
    | .many name appends items =>
      let (texts, run) := run.expandItems fuel items
      let shown := name ++ (if appends then "+" else "")
      if run.goesOn then settle name shown "" (run.putList name appends texts) run
      else (shown, "", run)
    | .one name subscript appends word =>
      let (key, run) := match subscript with
        | some subscript =>
          let (text, run) := run.expandText fuel subscript
          (some text, run)
        | none => (none, run)
      let (value, run) := run.expandText fuel word
      let target := match key with
        | some key => name ++ "[" ++ key ++ "]"
        | none => name
      let shown := target ++ (if appends then "+" else "")
      if !run.goesOn then (shown, value, run)
      else if run.process.isExtended then
        settle name shown value (run.putText target appends value) run
      else (name, value, Builtin.setVariable mark name value run)

/-- Carries out assignments, of variables that programs inherit if `exports`; also gives the names
and values. -/
def assignAll (fuel : Nat) (exports : Bool) (assignments : List Assignment) (run : Run) :
    List (String × String) × Run :=
  match fuel with
  | 0 => ([], run.exhausting)
  | fuel + 1 =>
    match assignments with
    | [] => ([], run)
    | assignment :: rest =>
      let (name, value, run) := run.assignOne fuel exports assignment
      if run.goesOn then
        let (more, run) := run.assignAll fuel exports rest
        ((name, value) :: more, run)
      else ([], run)

/-- Carries out redirections: whether all of them succeed, and the run. -/
def redirect (fuel : Nat) (changes : List Redirection) (run : Run) : Bool × Run :=
  match fuel with
  | 0 => (false, run.exhausting)
  | fuel + 1 =>
    match changes with
    | [] => (true, run)
    | .change descriptor opening target :: rest =>
      let isWord := !run.process.isExtended || opening == .here
      let (names, run) :=
        if isWord then
          let (text, run) := run.expandText fuel target
          ([text], run)
        else run.expandFields fuel [target]
      let name := names.headD ""
      if run.goesOn && names.length != 1 then
        run.refuse (wordSource target ++ ": ambiguous redirect")
      else if run.goesOn then
        let (succeeds, run) := match opening with
          | .here => (true, run.feed descriptor { rest := name.toList })
          | .duplicate => run.duplicate descriptor name
          | opening => run.openFile descriptor opening name
        if succeeds then run.redirect fuel rest else (false, run)
      else (false, run)

/-- Runs a command of one's own: a function, a command of the shell, or a program. -/
def invoke (fuel : Nat) (name : String) (args : List String) (seesFunctions : Bool) (run : Run) :
    Run :=
  match fuel with
  | 0 => run.exhausting
  | fuel + 1 =>
    match if seesFunctions then run.process.functions.lookup name else none with
    | some body => run.call fuel name body args
    | none =>
      match name, run.process.isExtended with
      | "eval", _ => run.evaluate fuel args
      | ".", false => run.source fuel args
      | ".", true | "source", true => run.sourceHere fuel name args
      | "exec", false => run.becoming fuel args
      | "exec", true => run.becomingExtended fuel args
      | "command", false => run.withoutFunctions fuel args
      | "command", true => run.withoutFunctionsExtended fuel args
      | "builtin", true =>
        match args with
        | [] => run.ended 0
        | name :: rest =>
          if Builtin.extendedNames.contains name then run.invoke fuel name rest false
          else run.failing 1 ("builtin: " ++ name ++ ": not a shell builtin")
      | _, _ =>
        match Builtin.run? name args run with
        | some run => run.caught fuel
        | none => run.start? fuel "" name args

/-- Runs a program for a script, or complains. -/
def start? (fuel : Nat) (directories name : String) (args : List String) (run : Run) : Run :=
  match fuel with
  | 0 => run.exhausting
  | fuel + 1 =>
    if run.process.isExtended then
      match run.locateProgram directories name with
      | .error fault =>
        let (status, text) := run.startFault name fault
        run.failing status text
      | .ok (found, located) =>
        let isUnrunnable := match located with
          | .script _ text =>
            ((interpreter? text).bind List.head?).any fun program =>
              (run.programAt program).toOption.isNone
          | .tool _ => false
        if isUnrunnable then run.failing 127 (name ++ ": cannot execute: required file not found")
        else
          let run := Builtin.remember name found run
          run.after ((run.tellingName found).enter fuel located name args)
    else if name.isEmpty then run.failing 127 (name ++ ": not found")
    else
      match run.locateProgram directories name with
      | .error fault => run.failing fault.status (name ++ ": " ++ fault.message)
      | .ok (found, located) =>
        let run := Builtin.remember name found run
        run.after (run.enter fuel located name args)

/-- Runs words as a script. -/
def evaluate (fuel : Nat) (args : List String) (run : Run) : Run :=
  match fuel with
  | 0 => run.exhausting
  | fuel + 1 =>
    let before := run.process.command
    let joined := " ".intercalate args
    if run.process.isExtended then
      let label := run.process.label
      let nesting := run.process.nesting
      let run := (run.ended 0).onProcess fun process =>
        { process with label := "eval", nesting := process.nesting + 1, isLast := false }
      let run := (run.text fuel { line := run.process.line, rest := joined.toList }).afterUnread
      run.onProcess fun process => { process with label, nesting }
    else
      (((run.ended 0).named "eval").text fuel
        { line := run.process.line, rest := joined.toList }).named before

/-- Runs a script in a file as if it stood here. -/
def source (fuel : Nat) (args : List String) (run : Run) : Run :=
  match fuel with
  | 0 => run.exhausting
  | fuel + 1 =>
    match args with
    | [] => run.ended 0
    | file :: _ =>
      let before := run.process.command
      match run.sourced file with
      | .error text => (run.named ".").fatal text
      | .ok text =>
        let line := run.process.line
        let run := ((run.ended 0).named file).text fuel { rest := text.toList }
        let run := (run.named before).onProcess fun process => { process with line }
        if run.control == .returned then { run with control := .proceed } else run

/-- Runs a script in a file as if it stood here, with arguments of its own if there are any. -/
def sourceHere (fuel : Nat) (name : String) (args : List String) (run : Run) : Run :=
  match fuel with
  | 0 => run.exhausting
  | fuel + 1 =>
    match (if args.head? == some "--" then args.drop 1 else args) with
    | [] =>
      ((run.named name).complain "filename argument required").ended 2 |>.named name
        |> Builtin.showUsage "filename [arguments]" |>.named ""
    | file :: rest =>
      match run.scriptFile file with
      | .error "is a directory" => run.failing 1 (name ++ ": " ++ file ++ ": is a directory")
      | .error text => run.failing 1 (file ++ ": " ++ text)
      | .ok (found, text) =>
        let before := run.process
        let run := (run.ended 0).onProcess fun process =>
          { process with
            origin := found, label := "", sourced := process.sourced + 1, isLast := false
            arguments := if rest.isEmpty then process.arguments else rest }
        let run := (run.text fuel { rest := text.toList }).afterUnread
        let run := run.onProcess fun process =>
          { process with
            origin := before.origin, label := before.label, sourced := before.sourced
            line := before.line
            arguments := if rest.isEmpty then process.arguments else before.arguments }
        if run.control == .returned then { run with control := .proceed } else run

/-- Turns a shell of the extended dialect into a program. -/
def becomingExtended (fuel : Nat) (args : List String) (run : Run) : Run :=
  match fuel with
  | 0 => run.exhausting
  | fuel + 1 =>
    let run := run.named "exec"
    match Builtin.options "cla:".toList args with
    | .error fault =>
      (Builtin.showUsage "[-cl] [-a name] [command [argument ...]] [redirection ...]"
        (run.complain fault.extendedMessage)).named ""
    | .ok (given, words) =>
      match words with
      | [] => (run.ended 0).named ""
      | program :: rest =>
        match run.locateProgram "" program with
        | .error fault =>
          let whole := if program.startsWith "/" then program
            else Tool.pathText run.process.place ++ "/" ++ program
          let run := match fault, program.contains '/' with
            | .missing .notFound, false => run.complain (program ++ ": not found")
            | .missing fault, _ => (run.named "").complain (whole ++ ": " ++ Tool.faultText fault)
            | .notPermitted, _ =>
              if run.asksFile "-d" program then
                ((run.named "").complain (whole ++ ": Is a directory")).named "exec" |>.complain
                  (program ++ ": cannot execute: Is a directory")
              else
                ((run.named "").complain (whole ++ ": Permission denied")).named "exec" |>.complain
                  (program ++ ": cannot execute: Permission denied")
          run.leaving fault.status
        | .ok (found, located) =>
          let shown := (given.reverse.lookup 'a').getD program
          let last := run.onProcess fun process => { process with isLast := true }
          let run := run.replacedBy ((last.tellingName found).enter fuel located shown rest)
          if run.goesOn then
            (run.onProcess fun process => { process with traps := [] }).leaving run.process.status
          else run

/-- Runs a command of the extended dialect that is no function, or says what it means. -/
def withoutFunctionsExtended (fuel : Nat) (args : List String) (run : Run) : Run :=
  match fuel with
  | 0 => run.exhausting
  | fuel + 1 =>
    match Builtin.options "pvV".toList args with
    | .error fault =>
      let run := run.named "command"
      (Builtin.showUsage "[-pVv] command [arg ...]" (run.complain fault.extendedMessage)).named ""
    | .ok (given, words) =>
      match given.find? fun (letter, _) => letter != 'p', words with
      | some (letter, _), _ =>
        (Builtin.Extended.describe (letter == 'V') words (run.named "command")).named ""
      | none, [] => run.ended 0
      | none, name :: rest =>
        if given.isEmpty || Builtin.extendedNames.contains name then run.invoke fuel name rest false
        else run.start? fuel standardDirectories name rest

/-- Turns the shell into a program. -/
def becoming (fuel : Nat) (args : List String) (run : Run) : Run :=
  match fuel with
  | 0 => run.exhausting
  | fuel + 1 =>
    match args with
    | [] => run.ended 0
    | program :: rest =>
      match run.program fuel "" program rest with
      | .error fault =>
        ((run.named "exec").complain (program ++ ": " ++ fault.message)).leaving fault.status
      | .ok child =>
        let run := run.replacedBy child
        if run.goesOn then
          (run.onProcess fun process => { process with traps := [] }).leaving run.process.status
        else run

/-- Runs a command that is no function, or says what it means. -/
def withoutFunctions (fuel : Nat) (args : List String) (run : Run) : Run :=
  match fuel with
  | 0 => run.exhausting
  | fuel + 1 =>
    match Builtin.options "pvV".toList args with
    | .error fault => (run.named "command").failing 2 fault.message |>.named run.process.command
    | .ok (given, words) =>
      match given.find? fun (letter, _) => letter != 'p', words with
      | some (letter, _), _ => Builtin.describe (letter == 'V') (words.take 1) run
      | none, [] => run.ended 0
      | none, name :: rest =>
        let before := run.process.command
        let run := if given.isEmpty || Builtin.isKnown .plain name then run.invoke fuel name rest false
          else run.start? fuel standardDirectories name rest
        if run.control == .aborted then
          ({ run with control := .proceed }.ended 2).named before
        else run

/-- Calls a function. -/
def call (fuel : Nat) (name : String) (body : Statement) (args : List String) (run : Run) : Run :=
  match fuel with
  | 0 => run.exhausting
  | fuel + 1 =>
    if run.process.calls ≥ maxCalls then
      if run.process.isExtended then { run with control := .killed 11 run.process.number }
      else run.fatal ("Maximum function recursion depth (" ++ toString maxCalls ++ ") reached")
    else
      let before := run.process
      let run := run.onProcess fun process =>
        { process with
          arguments := args, hidden := [], loops := 0, calls := process.calls + 1
          optionIndex := 1, optionOffset := none, isLast := false
          callers := name :: process.callers
          origin := if process.isExtended then (process.homes.lookup name).getD "" else process.origin }
      let run := run.statement fuel body
      let run := restored run.process.hidden run
      let run := run.onProcess fun process =>
        { process with
          arguments := before.arguments, hidden := before.hidden, loops := before.loops
          calls := before.calls, optionIndex := before.optionIndex
          callers := before.callers, origin := before.origin
          optionOffset := before.optionOffset }
      if run.control == .returned then { run with control := .proceed } else run

/-- Runs a simple command. -/
def simple (fuel : Nat) (assignments : List Assignment) (words : List Word)
    (changes : List Redirection) (lists : List Assignment) (run : Run) : Run :=
  match fuel with
  | 0 => run.exhausting
  | fuel + 1 =>
    let descriptors := run.process.descriptors
    let run := run.onProcess fun process => { process with captured := 0 }
    let (fields, run) := run.expandFields fuel words
    if run.goesOn then
      let (succeeds, run) := run.redirect fuel changes
      if !run.goesOn then run.withDescriptors descriptors
      else if !succeeds then
        (if fields.head?.any specialCommands.contains && !run.process.isExtended then
            { run with control := .aborted }
          else run).withDescriptors descriptors
      else
        match fields with
        | [] => (run.assignOnly fuel assignments descriptors).withDescriptors descriptors
        | name :: args =>
          let run := run.invokeWith fuel assignments name args descriptors
          let run := if lists.isEmpty || !run.goesOn || run.process.status != 0 then run
            else (run.assignKept fuel lists).2.ended 0
          if name == "exec" && args.isEmpty then run else run.withDescriptors descriptors
    else run.withDescriptors descriptors

/-- Carries out assignments to variables that may have just been told not to change. -/
def assignKept (fuel : Nat) (assignments : List Assignment) (run : Run) :
    List (String × String) × Run :=
  match fuel with
  | 0 => ([], run.exhausting)
  | fuel + 1 =>
    match assignments with
    | [] => ([], run)
    | assignment :: rest =>
      let name := match assignment with
        | .one name _ _ _ => name
        | .many name _ _ => name
      let isConstant := (run.process.bindings.lookup name).any (·.isConstant)
      let freeze (isConstant : Bool) (run : Run) : Run :=
        run.onProcess fun process =>
          process.restore name
            ((process.bindings.lookup name).map fun entry => { entry with isConstant })
      let (_, _, run) := (freeze false run).assignOne fuel false assignment
      (freeze isConstant run).assignKept fuel rest

/-- Carries out assignments that no command follows. -/
def assignOnly (fuel : Nat) (assignments : List Assignment)
    (descriptors : List (Nat × Channel)) (run : Run) : Run :=
  match fuel with
  | 0 => run.exhausting
  | fuel + 1 =>
    let (values, run) := run.assignAll fuel false assignments
    if run.goesOn then (run.traced descriptors values []).ended run.process.captured else run

/-- Runs a command with assignments, which last only as long as it, unless it is a special one of the
plain dialect. -/
def invokeWith (fuel : Nat) (assignments : List Assignment) (name : String)
    (args : List String) (descriptors : List (Nat × Channel)) (run : Run) : Run :=
  match fuel with
  | 0 => run.exhausting
  | fuel + 1 =>
    let called (run : Run) : Run :=
      if run.process.isExtended then
        run.onProcess fun process => process.assign "_" ((args.getLast?).getD name)
      else run
    if assignments.isEmpty then
      ((called run).traced descriptors [] (name :: args)).invoke fuel name args true
    else
      let isSpecial := specialCommands.contains name && !run.process.isExtended
      let before := assignments.map fun assignment =>
        let target := match assignment with
          | .one name _ _ _ => name
          | .many name _ _ => name
        (target, run.process.bindings.lookup target)
      let (values, run) := run.assignAll fuel (!isSpecial) assignments
      if run.goesOn then
        let run := ((called run).traced descriptors values (name :: args)).invoke fuel name args true
        if isSpecial then run else restored before run
      else if run.control == .discarded then
        -- the command is carried out without the value that could not be assigned
        restored before ({ run with control := .proceed }.invoke fuel name args true)
      else run

/-- Runs the commands of a pipeline that started at a time. `input` is what the one before has
written, `latest` the time at which the last of those before ends. -/
def pipe (fuel start latest : Nat) (input : Option Source) (members : List Statement) (run : Run) :
    Run :=
  match fuel with
  | 0 => run.exhausting
  | fuel + 1 =>
    let begin (run : Run) : Run :=
      let run := match input with
        | some source => run.feed 0 source
        | none => run
      run.onMachine fun machine => { machine with clock := start }
    match members with
    | [] => run.waitUntil latest
    | [last] =>
      if run.process.isOn "lastpipe" then
        let descriptors := run.process.descriptors
        let run := ((begin run).all fuel [last]).withDescriptors descriptors
        let run := if run.goesOn then run.waitUntil latest else run
        run.withOutcomes (run.process.outcomes ++ [run.process.status])
      else
      let child := (begin run).part fuel [last]
      let run := (run.after child).waitUntil latest
      run.withOutcomes (run.process.outcomes ++ [run.process.status])
    | member :: rest =>
      let (sink, machine) := run.machine.fresh
      let child := (begin { run with machine }).onProcess fun process =>
        process.setChannel 1 (.sink sink)
      let child := child.part fuel [member]
      let source := writtenBy child sink
      let latest := if source.isEndless then latest else max latest child.machine.clock
      let after := run.afterStage (child.onMachine fun machine => machine.forget sink) source.isEndless
      let status := if source.isEndless then 141 else after.process.status
      let after := after.withOutcomes (after.process.outcomes ++ [status])
      if after.goesOn then after.pipe fuel start latest (some source) rest else after

/-- Starts a job in the background. -/
def start (fuel : Nat) (statement : Statement) (run : Run) : Run :=
  match fuel with
  | 0 => run.exhausting
  | fuel + 1 =>
    let begin := run.machine.clock
    let (number, machine) := run.machine.fresh
    let child := ({ run with machine }.onProcess fun process =>
      { process.setChannel 0 .nothing with job := number }).asPart
    let sinks := match statement with
      | .redirected _ changes => (child.redirect fuel changes).2.process.sinks
      | .simple _ _ _ changes _ => (child.redirect fuel changes).2.process.sinks
      | _ => child.process.sinks
    let child := child.part fuel [statement]
    let finish := if child.isEndless then none else some child.machine.clock
    let job : Job := { number, finish, status := child.process.status % 256, sinks }
    let run := { run with
      machine := { child.machine with clock := begin, jobs := job :: child.machine.jobs } }
    (run.onProcess fun process => { process with lastJob := some number }).ended 0

/-- Goes through the rounds of a loop with a test. `status` is that of the round before. -/
def rounds (fuel : Nat) (onSuccess : Bool) (test body : List Statement) (status : Nat) (run : Run) :
    Run :=
  match fuel with
  | 0 => run.exhausting
  | fuel + 1 =>
    let (isOver, run) := (run.inTest.all fuel test).outOfTest.afterRound
    if isOver then run
    else if (run.process.status == 0) != onSuccess then run.ended status
    else
      let (isOver, run) := (run.all fuel body).afterRound
      if isOver then run else run.rounds fuel onSuccess test body run.process.status

/-- Goes through the rounds of a loop over texts. -/
def eachOf (fuel : Nat) (name : String) (texts : List String) (body : List Statement) (run : Run) :
    Run :=
  match fuel with
  | 0 => run.exhausting
  | fuel + 1 =>
    match texts with
    | [] => run
    | text :: rest =>
      if run.process.isExtended then
        match run.putText name false text with
        | .error fault => run.failing 1 fault
        | .ok run =>
          let (isOver, run) := (run.all fuel body).afterRound
          if isOver then run else run.eachOf fuel name rest body
      else
      let run := Builtin.setVariable id name text run
      let (isOver, run) := (run.all fuel body).afterRound
      if isOver then run else run.eachOf fuel name rest body

/-- Runs the first arm of which a pattern fits. -/
def choose (fuel : Nat) (subject : String) (arms : List (List Word × List Statement)) (run : Run) :
    Run :=
  match fuel with
  | 0 => run.exhausting
  | fuel + 1 =>
    match arms with
    | [] => run.ended 0
    | ([], _) :: rest => run.choose fuel subject rest
    | (pattern :: others, body) :: rest =>
      let (pieces, run) := run.expandParts fuel pattern
      if run.goesOn then
        let ignores := run.process.isOn "nocasematch"
        let marks := Piece.marks pieces
        let marks := if ignores then marks.map fun (c, isQuoted) => (c.toLower, isQuoted) else marks
        let text := if ignores then subject.map Char.toLower else subject
        if (Pattern.ofMarks marks).accepts text.toList then
          (run.ended 0).all fuel body
        else run.choose fuel subject ((others, body) :: rest)
      else run

/-- The value of an expression in a statement of its own; nothing if it has none, about which there is a
complaint. -/
def valueOf (fuel : Nat) (expression : Word) (run : Run) : Option Int × Run :=
  match fuel with
  | 0 => (none, run.exhausting)
  | fuel + 1 =>
    let (text, run) := run.expandText fuel expression
    if run.goesOn then
      let run := run.tracedAs ("(( " ++ text ++ " ))")
      match run.calculate text "((: " with
      | .error text => (none, run.failing 1 text)
      | .ok (value, run) => (some value, run)
    else (none, run)

/-- Goes through the rounds of a loop that counts. -/
def countedRounds (fuel : Nat) (test step : Word) (body : List Statement) (run : Run) : Run :=
  match fuel with
  | 0 => run.exhausting
  | fuel + 1 =>
    let (value, run) := if test.isEmpty then (some 1, run) else run.valueOf fuel test
    match run.goesOn, value with
    | true, some 0 => run
    | true, some _ =>
      let (isOver, run) := ((run.ended 0).all fuel body).afterRound
      if isOver then run
      else if step.isEmpty then run.countedRounds fuel test step body
      else
        let status := run.process.status
        let (value, run) := run.valueOf fuel step
        if run.goesOn && value.isSome then (run.ended status).countedRounds fuel test step body else run
    | _, _ => run

/-- The outcome of a condition as a status: zero if it holds, one if not, two if it makes no sense. -/
def verdict (fuel : Nat) (question : Question) (run : Run) : Nat × Run :=
  match fuel with
  | 0 => (2, run.exhausting)
  | fuel + 1 =>
    let truth (holds : Bool) : Nat := if holds then 0 else 1
    match question with
    | .holds word =>
      let (text, run) := run.expandText fuel word
      (truth (text != ""), run.tracedAs ("[[ -n " ++ Quoting.traced text ++ " ]]"))
    | .denied inner =>
      let (status, run) := run.verdict fuel inner
      (if status = 0 then 1 else if status = 1 then 0 else status, run)
    | .both first second =>
      let (status, run) := run.verdict fuel first
      if status = 0 && run.goesOn then run.verdict fuel second else (status, run)
    | .either first second =>
      let (status, run) := run.verdict fuel first
      if status != 0 && run.goesOn then run.verdict fuel second else (status, run)
    | .unary operator word =>
      let (text, run) := run.expandText fuel word
      let run := run.tracedAs ("[[ " ++ operator ++ " " ++ Quoting.traced text ++ " ]]")
      (truth (run.asksOne operator text), run)
    | .binary first operator second =>
      let (text, run) := run.expandText fuel first
      let (pieces, run) := run.expandParts fuel second
      let marks := Piece.marks pieces
      let other := Piece.text pieces
      if !run.goesOn then (1, run)
      else
        let run := run.tracedAs ("[[ " ++ text ++ " " ++ operator ++ " " ++ other ++ " ]]")
        let lowered (text : String) : String :=
          if run.process.isOn "nocasematch" then text.map Char.toLower else text
        let fits : Bool :=
          let marks := if run.process.isOn "nocasematch" then
            marks.map fun (c, isQuoted) => (c.toLower, isQuoted) else marks
          (Pattern.ofMarks marks).accepts (lowered text).toList
        match operator with
        | "=" | "==" => (truth fits, run)
        | "!=" => (truth (!fits), run)
        | "<" => (truth (text < other), run)
        | ">" => (truth (other < text), run)
        | "=~" =>
          match run.matched? text marks with
          | none => (2, run)
          | some (holds, run) => (truth holds, run)
        | "-nt" | "-ot" | "-ef" => (truth (run.asksFiles text operator other), run)
        | _ =>
          match run.calculate text "[[: " with
          | .error fault => (1, run.failing 1 fault)
          | .ok (a, run) =>
            match run.calculate other "[[: " with
            | .error fault => (1, run.failing 1 fault)
            | .ok (b, run) =>
              let holds := match operator with
                | "-eq" => a == b
                | "-ne" => a != b
                | "-lt" => a < b
                | "-le" => a ≤ b
                | "-gt" => b < a
                | _ => b ≤ a
              (truth holds, run)

/-- Does what a script has asked for in case that a command fails, and ends the script if a failure has
to end it. -/
def settled (fuel : Nat) (run : Run) : Run :=
  match fuel with
  | 0 => run.exhausting
  | fuel + 1 =>
    let hasFailed := run.goesOn && run.process.isExtended && run.process.tests = 0 &&
      run.process.status != 0
    match if hasFailed && run.process.calls = 0 then run.process.traps.lookup 66 else none with
    | none => run.checked
    | some action =>
      let status := run.process.status
      let traps := run.process.traps
      let run := run.onProcess fun process =>
        { process with traps := Builtin.withoutTraps process.traps [66] }
      let run := run.text fuel { line := run.process.line, rest := action.toList }
      let run := run.onProcess fun process => { process with traps }
      if run.goesOn then (run.ended status).checked else run

/-- Runs a statement. -/
def statement (fuel : Nat) (statement : Statement) (run : Run) : Run :=
  match fuel with
  | 0 => run.exhausting
  | fuel + 1 =>
    if run.process.isSet 'n' then run
    else
    match statement with
    | .simple line assignments words changes lists =>
      ((run.onProcess fun process => { process with line }).simple fuel assignments words
        changes lists).noted.settled fuel
    | .pipeline members =>
      let run := (run.withOutcomes []).pipe fuel run.machine.clock run.machine.clock none members
      let failed := run.process.outcomes.reverse.find? (· != 0)
      let run := if run.goesOn && run.process.isOn "pipefail" then run.ended (failed.getD 0) else run
      run.settled fuel
    | .question line question =>
      let (status, run) := (run.onProcess fun process => { process with line }).verdict fuel question
      if run.goesOn then (run.ended status).noted.settled fuel else run
    | .sum line expression =>
      let (value, run) := (run.onProcess fun process => { process with line }).valueOf fuel expression
      if run.goesOn then (run.ended (if value.any (· != 0) then 0 else 1)).noted.settled fuel else run
    | .counted line start test step body =>
      let run := run.onProcess fun process => { process with line }
      let (value, run) := if start.isEmpty then (some 0, run) else run.valueOf fuel start
      if run.goesOn && value.isSome then
        ((run.ended 0).inLoop.countedRounds fuel test step body).outOfLoop
      else run
    | .timed isCommon inner =>
      let begin := run.machine.clock
      let run := (run.ended 0).notLast.statement fuel inner
      run.write 2 (timeReport isCommon (run.machine.clock - begin))
    | .negated inner =>
      let run := (run.inTest.statement fuel inner).outOfTest
      if run.goesOn then run.ended (if run.process.status = 0 then 1 else 0) else run
    | .both first second =>
      let isLast := run.process.isLast
      let run := (run.notLast.inTest.statement fuel first).outOfTest
      if run.goesOn && run.process.status = 0 then
        (run.onProcess fun process => { process with isLast }).statement fuel second
      else run
    | .either first second =>
      let isLast := run.process.isLast
      let run := (run.notLast.inTest.statement fuel first).outOfTest
      if run.goesOn && run.process.status != 0 then
        (run.onProcess fun process => { process with isLast }).statement fuel second
      else run
    | .background inner => run.start fuel inner
    | .group body => run.notLast.all fuel body
    | .subshell body => (run.after (run.part fuel body)).noted.settled fuel
    | .conditional test body otherwise =>
      let run := (run.notLast.inTest.all fuel test).outOfTest
      if run.goesOn then
        if run.process.status = 0 then run.all fuel body else (run.ended 0).all fuel otherwise
      else run
    | .loop onSuccess test body => (run.notLast.inLoop.rounds fuel onSuccess test body 0).outOfLoop
    | .each name words body =>
      let (texts, run) := match words with
        | some words => run.expandFields fuel words
        | none => (run.process.arguments, run)
      if !run.goesOn then run
      else if run.process.isExtended && !isName name then
        run.failing 1 ("\x60" ++ name ++ "': not a valid identifier")
      else ((run.ended 0).notLast.inLoop.eachOf fuel name texts body).outOfLoop
    | .choice word arms =>
      let (subject, run) := run.expandText fuel word
      if run.goesOn then
        (run.notLast.tracedAs ("case " ++ subject ++ " in")).choose fuel subject arms
      else run
    | .function name body =>
      (run.onProcess fun process =>
        { process with
          functions := Process.replaced name body process.functions
          homes := if process.isExtended then
              Process.replaced name (if process.origin.isEmpty then "environment" else process.origin)
                process.homes
            else process.homes }).ended 0
    | .redirected inner changes =>
      let descriptors := run.process.descriptors
      let (succeeds, run) := run.notLast.redirect fuel changes
      let run := if succeeds && run.goesOn then run.statement fuel inner else run
      run.onProcess fun process => { process with descriptors }

end

end Run

end RunMeter.Shell
