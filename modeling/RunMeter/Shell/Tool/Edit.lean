import RunMeter.Shell.Edit.Machine
import RunMeter.Shell.Edit.Reader
import RunMeter.Shell.Tool.Basic

/-!
# Editing files by scripts

`sed`: where its script and its lines come from, and where what it writes goes.
-/

set_option autoImplicit false

namespace RunMeter.Shell.Tool

/-- The options of `sed`. -/
def editTable : OptionTable :=
  { short := "bsnrzuEe:f:l:i::"
    long :=
      [("quiet", .nothing, 'n'), ("silent", .nothing, 'n'), ("expression", .required, 'e'),
        ("file", .required, 'f'), ("in-place", .optional, 'i'), ("line-length", .required, 'l'),
        ("regexp-extended", .nothing, 'E'), ("separate", .nothing, 's'),
        ("unbuffered", .nothing, 'u'), ("null-data", .nothing, 'z'),
        ("zero-terminated", .nothing, 'z'), ("posix", .nothing, 'p'), ("debug", .nothing, 'd'),
        ("sandbox", .nothing, 'S'), ("binary", .nothing, 'b'), ("follow-symlinks", .nothing, 'F')] }

/-- A part of a script: where it comes from, if that is a file, and its text. -/
structure ScriptPart where
  file : Option String
  text : String

/-- Where in the parts of a script a place lies: the part, its number among those without files, and
the characters before the place. `before` are the characters before the parts. -/
def placeOf (before expressions place : Nat) : List ScriptPart → Option (ScriptPart × Nat × Nat)
  | [] => none
  | part :: rest =>
    let expressions := if part.file.isNone then expressions + 1 else expressions
    if place ≤ before + part.text.length || rest.isEmpty then
      some (part, expressions, place - before)
    else placeOf (before + part.text.length + 1) expressions place rest

/-- Complains about a script. -/
def editFault (parts : List ScriptPart) (left : Nat) (fault : Edit.ScriptFault) (run : Run) : Run :=
  let total := parts.foldl (fun total part => total + part.text.length + 1) 0 - 1
  let message := fault.message
  match fault with
  | .unknownLabel _ => failWith 4 run message
  | _ =>
    match placeOf 0 0 (total - left) parts with
    | none => failWith 1 run message
    | some (part, expression, place) =>
      let place := match fault with
        | .unmatchedOpen => 0
        | .noRegex => 0
        | _ => place
      match part.file with
      | none =>
        failWith 1 run ("-e expression #" ++ toString expression ++ ", char " ++ toString place ++
          ": " ++ message)
      | some file =>
        let line := (part.text.toList.take (place - 1)).count '\n' + 1
        failWith 1 run ("file " ++ file ++ " line " ++ toString line ++ ": " ++ message)

/-- The input of an edit: the lines, the names of the files, and which of them is the standard input. -/
structure EditInput where
  lines : List Edit.InputLine := []
  names : List String := []
  standard : Option Nat := none
  status : Nat := 0
  /-- Whether a file has broken off the reading. -/
  isBroken : Bool := false

/-- The lines of a text, which come from a file with a number. -/
def editLines (lineEnd : Char) (file : Nat) (text : String) : List Edit.InputLine :=
  let pieces := text.splitOn (String.ofList [lineEnd])
  let whole := pieces.dropLast.map fun line => { text := line, hasEnd := true, file : Edit.InputLine }
  match pieces.getLast? with
  | some "" | none => whole
  | some last => whole ++ [{ text := last, hasEnd := false, file }]

/-- Reads the files of an edit. -/
def editInput (lineEnd : Char) (isInPlace : Bool) (names : List String) (run : Run) :
    EditInput × Run :=
  names.foldl
    (fun ((input, run) : EditInput × Run) name =>
      let file := input.names.length
      let add (text : String) (standard : Option Nat) : EditInput :=
        { input with
          lines := input.lines ++ editLines lineEnd file text
          names := input.names ++ [name]
          standard }
      if input.isBroken then (input, run)
      else if name == "-" && !isInPlace then
        (add (String.ofList (run.ahead 0).rest) (some file), run)
      else if isInPlace && (run.asksFile "-e" name) && !run.asksFile "-f" name then
        ({ input with status := 4 },
          run.write 2 (run.process.name ++ ": couldn't edit " ++ name ++ ": not a regular file\n"))
      else
        match run.sourceOf name with
        | .ok source => (add (String.ofList source.rest) input.standard, run)
        | .error .isADirectory =>
          ({ input with isBroken := true, status := 4 },
            run.write 2 (run.process.name ++ ": read error on " ++ name ++ ": Is a directory\n"))
        | .error fault =>
          ({ input with status := 2 },
            run.write 2 (run.process.name ++ ": can't read " ++ name ++ ": " ++ faultText fault ++
              "\n")))
    ({}, run)

/-- The files that a script writes. -/
def editTargets (script : Edit.Script) : List String :=
  script.toList.filterMap fun command =>
    match command.action with
    | .write name => some name
    | .writeFirst name => some name
    | .substitute substitution => substitution.target
    | _ => none

/-- How many steps an edit may take. -/
def editSteps : Nat := 3000000

/-- Writes a text to a file, or to an output under its name. -/
def writeTarget (run : Run) (name text : String) : Run :=
  if name == "/dev/stdout" then run.print text
  else if name == "/dev/stderr" then run.write 2 text
  else
    match run.writeFile name text false with
    | .ok run => run
    | .error fault => failWith 4 run ("couldn't open file " ++ name ++ ": " ++ faultText fault)

/-- Uses up the standard input as far as it was read. Of a file the rest is left. -/
def leaveLines (lineEnd : Char) (file : Nat) (ahead : List Edit.InputLine) (run : Run) : Run :=
  let source := run.ahead 0
  let left := ahead.filter fun line => line.file == file
  let text := String.join (left.map fun line =>
    if line.hasEnd then line.text ++ String.ofList [lineEnd] else line.text)
  if source.isFile || source.isEndless then run.leave 0 text.toList else run.leave 0 []

/-- Edits files by a script. -/
def edit (given : Given) (script : Edit.Script) (names : List String) (run : Run) : Run :=
  let lineEnd := if given.has 'z' then Char.ofNat 0 else '\n'
  let isInPlace := given.has 'i'
  let names := if names.isEmpty then ["-"] else names
  let targets := editTargets script
  let run := targets.foldl (fun run name =>
    if name == "/dev/stdout" || name == "/dev/stderr" then run else writeTarget run name "") run
  let (input, run) := editInput lineEnd isInPlace names run
  let setting : Edit.Setting :=
    { script
      isSilent := given.has 'n'
      isSeparate := given.has 's' || isInPlace
      isInPlace
      lineEnd
      width := match given.value? 'l' with
        | some text => text.toNat?.getD 0
        | none => 70
      fileNames := input.names.toArray
      content? := fun name =>
        if name == "/dev/stdin" then some (String.ofList (run.ahead 0).rest)
        else (run.sourceOf name).toOption.map fun source => String.ofList source.rest }
  let state := (Edit.Editing.start setting input.lines).run setting editSteps
  let isOver := match state.phase with
    | .over _ => true
    | _ => false
  let run := match input.standard with
    | some file => leaveLines lineEnd file (if isOver then state.ahead else []) run
    | none => run
  let run :=
    if isInPlace then
      let finished := (state.file, state.outlet.text) :: state.finished
      (input.names.mapIdx fun file name => (name, (finished.lookup file).getD "")).foldl
        (fun run (name, text) =>
          let left := String.join ((state.ahead.filter fun line =>
            (input.names[line.file]?) == some name).map fun line =>
              if line.hasEnd then line.text ++ String.ofList [lineEnd] else line.text)
          let run := match given.value? 'i' with
            | none => run
            | some suffix =>
              let backup := if suffix.contains '*' then name.intercalate (suffix.splitOn "*")
                else name ++ suffix
              match contents run name with
              | (.ok before, run) => writeTarget run backup before
              | (_, run) => run
          writeTarget run name (text ++ left))
        run
    else run.print state.outlet.text
  let run := state.targets.foldl (fun run (name, outlet) => writeTarget run name outlet.text) run
  if !isOver then run.exhausting
  else
    let status := match state.phase with
      | .over status => status
      | _ => 0
    if state.isFaulty then
      failWith 1 run ("-e expression #1, char 0: " ++ Edit.ScriptFault.noRegex.message)
    else run.ended (if status != 0 then status else input.status)

/-- Edits files. -/
def sed (args : List String) (run : Run) : Run :=
  match editTable.read args with
  | .error fault => failWith 1 run fault.message
  | .ok given =>
    let parts : Except String (List ScriptPart) := given.options.foldlM
      (fun parts (letter, value) =>
        let value := value.getD ""
        if letter == 'e' then .ok (parts ++ [{ file := none, text := value }])
        else if letter == 'f' then
          match (contents run value).1 with
          | .ok text =>
            let text := if text.endsWith "\n" then (text.dropEnd 1).toString else text
            .ok (parts ++ [{ file := some value, text }])
          | .error fault => .error ("couldn't open file " ++ value ++ ": " ++ faultText fault)
        else .ok parts)
      []
    match parts with
    | .error text => failWith 1 run text
    | .ok parts =>
      let (parts, names) := match parts, given.operands with
        | [], first :: rest => ([{ file := none, text := first : ScriptPart }], rest)
        | parts, operands => (parts, operands)
      if parts.isEmpty then
        (run.write 2 ("Usage: " ++ run.process.name ++
          " [OPTION]... \x7bscript-only-if-no-other-script\x7d [input-file]...\n")).ended 1
      else
        let text := "\n".intercalate (parts.map (·.text))
        let first := (text.splitOn "\n").headD ""
        let given := if first == "#n" then { given with options := ('n', none) :: given.options }
          else given
        match Edit.Script.read { isExtended := given.hasAny ['E', 'r'] } text with
        | .error (left, fault) => editFault parts left fault run
        | .ok script => edit given script names run

end RunMeter.Shell.Tool
