import RunMeter.Shell.Edit.Script

/-!
# Editing streams

A script goes through the lines of its input: each line in turn is taken into the pattern space, the
commands act on it in order, and what is left of it is written. `Editing.step` carries out one command,
`Editing.run` all of them on all lines. A second text, the hold space, outlasts the lines.
-/

set_option autoImplicit false

namespace RunMeter.Shell.Edit

/-- A line of the input. -/
structure InputLine where
  text : String
  /-- Whether a line end follows. -/
  hasEnd : Bool
  /-- The number of the file that it comes from. -/
  file : Nat

/-- Something that is written bit by bit. A line without an end is given one before anything else. -/
structure Outlet where
  reversed : List String := []
  owesEnd : Bool := false

namespace Outlet

/-- Writes text. -/
def write (outlet : Outlet) (text : String) : Outlet :=
  { reversed := text :: (if outlet.owesEnd then "\n" :: outlet.reversed else outlet.reversed) }

/-- Writes a line, the end of which may be missing. -/
def writeLine (outlet : Outlet) (text : String) (hasEnd : Bool) (lineEnd : String) : Outlet :=
  let outlet := outlet.write (if hasEnd then text ++ lineEnd else text)
  { outlet with owesEnd := !hasEnd }

/-- All that was written. -/
def text (outlet : Outlet) : String := String.join outlet.reversed.reverse

end Outlet

/-- How far a command is in the rows of lines that it acts on. -/
inductive RowState
  | outside
  /-- Within a row, which ends at a line if that is known. -/
  | inside (stop : Option Nat)
  /-- Behind the only row. -/
  | behind
deriving DecidableEq, Repr

/-- Where the machine stands. -/
inductive Phase
  | command (position : Nat)
  /-- The commands are at their end; the pattern space is written and the next line taken. -/
  | lineDone
  /-- The next line is taken. -/
  | dropped
  /-- The commands begin anew with what is in the pattern space. -/
  | again
  | over (status : Nat)
deriving DecidableEq, Repr

/-- What is fixed while a script runs. -/
structure Setting where
  script : Script
  isSilent : Bool := false
  /-- Whether every file is a stream of its own. -/
  isSeparate : Bool := false
  /-- Whether what is written goes to the files that it comes from. -/
  isInPlace : Bool := false
  lineEnd : Char := '\n'
  /-- The width at which lists are broken. -/
  width : Nat := 70
  fileNames : Array String := #[]
  /-- The contents of a file, if it can be read. -/
  content? : String → Option String

/-- The state of a run. -/
structure Editing where
  phase : Phase := .dropped
  space : String := ""
  hasEnd : Bool := true
  held : String := ""
  number : Nat := 0
  file : Nat := 0
  ahead : List InputLine
  rows : Array RowState
  hasReplaced : Bool := false
  lastRegex : Option Regex := none
  /-- What is written at the end of the line: text and whether it is a line that may lack its end. -/
  pending : List (String × Bool) := []
  outlet : Outlet := {}
  /-- What files have been given in their places. -/
  finished : List (Nat × String) := []
  targets : List (String × Outlet) := []
  /-- The lines that are left of files that are read one by one. -/
  readers : List (String × List String) := []
  isFaulty : Bool := false

namespace Editing

/-- Whether no line follows. -/
def isLast (setting : Setting) (state : Editing) : Bool :=
  match state.ahead with
  | [] => true
  | line :: _ => setting.isSeparate && line.file != state.file

/-- Writes text to a file, or to the standard output under its name. -/
def writeTo (name text : String) (hasEnd : Bool) (setting : Setting) (state : Editing) : Editing :=
  let close := String.ofList [setting.lineEnd]
  if name == "/dev/stdout" then
    { state with outlet := state.outlet.writeLine text hasEnd close }
  else
    let before := (state.targets.lookup name).getD {}
    { state with
      targets := (name, before.writeLine text hasEnd close) ::
        state.targets.filter fun (other, _) => other != name }

/-- Writes the pattern space. -/
def printSpace (setting : Setting) (state : Editing) : Editing :=
  { state with
    outlet := state.outlet.writeLine state.space state.hasEnd (String.ofList [setting.lineEnd]) }

/-- Writes what was put off to the end of the line. -/
def flush (state : Editing) : Editing :=
  let outlet := state.pending.foldl
    (fun (outlet : Outlet) (text, _) =>
      if text.isEmpty then outlet
      else
        let outlet := outlet.write text
        { outlet with owesEnd := false })
    state.outlet
  { state with outlet, pending := [] }

/-- Takes the next line, which may be the first of another file. -/
def takeLine (setting : Setting) (state : Editing) : Option Editing :=
  let state := state.flush
  match state.ahead with
  | [] => none
  | line :: rest =>
    let isNewFile := line.file != state.file && setting.isSeparate
    let state :=
      if isNewFile && setting.isInPlace then
        { state with
          finished := (state.file, state.outlet.text) :: state.finished, outlet := {} }
      else state
    some
      { state with
        ahead := rest
        space := line.text
        hasEnd := line.hasEnd
        file := line.file
        number := if isNewFile then 1 else state.number + 1
        hasReplaced := false }

/-- The expression that is meant, which is the last one if none is given. -/
def regexOf (state : Editing) (regex : Option Regex) : Option Regex :=
  regex.orElse fun _ => state.lastRegex

/-- Whether the current line is at a place. -/
def isAt (setting : Setting) (state : Editing) : LinePlace → Bool × Editing
  | .number n => (state.number == n, state)
  | .last => (state.isLast setting, state)
  | .stepped first step =>
    (state.number ≥ first && (state.number - first) % step == 0, state)
  | .fitting regex =>
    match state.regexOf regex with
    | some regex => (regex.occursIn state.space, { state with lastRegex := some regex })
    | none => (false, { state with isFaulty := true, phase := .over 1 })

/-- Sets how far a command is in its rows. -/
def setRow (position : Nat) (row : RowState) (state : Editing) : Editing :=
  { state with rows := state.rows.set! position row }

/-- Begins a row of lines at the current one, unless that is all of it. -/
def beginRow (position : Nat) (stop : RowEnd) (state : Editing) : Editing :=
  let until' (last : Nat) : Editing :=
    if last ≤ state.number then state else state.setRow position (.inside (some last))
  match stop with
  | .further count => until' (state.number + count)
  | .multiple n => if n = 0 then state else until' ((state.number + n - 1) / n * n)
  | .place (.number last) => until' last
  | .place _ => state.setRow position (.inside none)

/-- Whether the command at a position acts on the current line. -/
def selects (setting : Setting) (position : Nat) (selection : Selection) (state : Editing) :
    Bool × Editing :=
  let (isChosen, state) : Bool × Editing :=
    match selection.start, selection.stop with
    | none, _ => (true, state)
    | some start, none => state.isAt setting start
    | some start, some stop =>
      match (state.rows[position]?).getD .outside with
      | .inside (some last) =>
        let state := if last ≤ state.number then state.setRow position .behind else state
        if state.number ≤ last then (true, state)
        else
          match start with
          | .number n => (state.number == n, state)
          | start =>
            let (begins, state) := state.isAt setting start
            if begins then (true, state.beginRow position stop) else (false, state)
      | .inside none =>
        match stop with
        | .place place =>
          let (ends, state) := state.isAt setting place
          (true, if ends then state.setRow position .behind else state)
        | _ => (true, state)
      | _ =>
        let (begins, state) := state.isAt setting start
        if begins then (true, state.beginRow position stop) else (false, state)
  (isChosen != selection.isNegated, state)

/-- Letters as the changes that are in force want them: those for all that follow, and those for the
next letter only. -/
structure CaseState where
  lasting : CaseChange := .none
  once : CaseChange := .none

/-- Applies changes of letters to text. -/
def CaseState.apply (state : CaseState) (text : List Char) : List Char × CaseState :=
  match text with
  | [] => ([], state)
  | c :: rest =>
    let all (c : Char) : Char :=
      match state.lasting with
      | .upper => c.toUpper
      | .lower => c.toLower
      | _ => c
    let first := match state.once with
      | .nextUpper => c.toUpper
      | .nextLower => c.toLower
      | _ => all c
    (first :: rest.map all, { state with once := .none })

/-- What replaces a match. -/
def replacementText (space : Array Char) (found : Found) (parts : List ReplacementPart) :
    List Char :=
  (parts.foldl
    (fun ((done, state) : List Char × CaseState) part =>
      let push (text : List Char) : List Char × CaseState :=
        let (text, state) := state.apply text
        (text.reverse ++ done, state)
      match part with
      | .text characters => push characters
      | .group number =>
        match found.group? number with
        | some (start, stop) => push (space.extract start stop).toList
        | none => (done, state)
      | .change .none => (done, {})
      | .change .upper => (done, { lasting := .upper, once := state.once })
      | .change .lower => (done, { lasting := .lower, once := state.once })
      | .change once => (done, { state with once }))
    ([], {})).1.reverse

/-- Replaces matches from a place on. `done` is the text before in reverse, `last` the end of the
match before, `count` the number of matches so far. `fuel` is more than the length of the text. -/
def replaceFrom (regex : Regex) (substitution : Substitution) (space : Array Char) :
    (fuel : Nat) → (done : List Char) → (place : Nat) → (last : Option Nat) → (count : Nat) →
      (hasReplaced : Bool) → List Char × Bool
  | 0, done, _, _, _, hasReplaced => (done.reverse, hasReplaced)
  | fuel + 1, done, place, last, count, hasReplaced =>
    let upTo (stop : Nat) : List Char := (space.extract place stop).toList.reverse
    match if place ≤ space.size then regex.search? space place else none with
    | none => ((upTo space.size ++ done).reverse, hasReplaced)
    | some found =>
      let before := upTo found.start ++ done
      let isEmpty := found.start == found.stop
      let skip (done : List Char) : List Char × Nat :=
        ((space.extract found.stop (found.stop + 1)).toList ++ done, found.stop + 1)
      if isEmpty && last == some found.start then
        let (done, place) := skip before
        replaceFrom regex substitution space fuel done place none count hasReplaced
      else
        let count := count + 1
        let matched := (space.extract found.start found.stop).toList.reverse
        let replaces := count ≥ substitution.first
        let done :=
          if replaces then (replacementText space found substitution.replacement).reverse ++ before
          else matched ++ before
        if replaces && !substitution.isGlobal then
          ((((space.extract found.stop space.size).toList.reverse) ++ done).reverse, true)
        else
          let (done, place) := if isEmpty then skip done else (done, found.stop)
          replaceFrom regex substitution space fuel done place (some found.stop) count
            (hasReplaced || replaces)

/-- Replaces matches in the pattern space. -/
def substitute (setting : Setting) (substitution : Substitution) (state : Editing) : Editing :=
  match state.regexOf substitution.regex with
  | none => { state with isFaulty := true, phase := .over 1 }
  | some regex =>
    let space := state.space.toList.toArray
    let (text, hasReplaced) := replaceFrom regex substitution space (space.size + 3) [] 0 none 0 false
    let state := { state with lastRegex := some regex }
    if hasReplaced then
      let state := { state with space := String.ofList text, hasReplaced := true }
      let state := if substitution.prints then state.printSpace setting else state
      match substitution.target with
      | some name => state.writeTo name state.space state.hasEnd setting
      | none => state
    else state

/-- A character as a list shows it. -/
def listed (c : Char) : String :=
  match c with
  | '\\' => "\\\\"
  | '\x07' => "\\a"
  | '\x08' => "\\b"
  | '\x0c' => "\\f"
  | '\n' => "\\n"
  | '\r' => "\\r"
  | '\t' => "\\t"
  | '\x0b' => "\\v"
  | c =>
    if ' ' ≤ c && c ≤ '~' then String.ofList [c]
    else
      let digits := Nat.toDigits 8 c.toNat
      "\\" ++ String.ofList (List.replicate (3 - digits.length) '0' ++ digits)

/-- The pattern space as a list shows it, broken into lines of a width. -/
def list (width : Nat) (space : String) : String :=
  let pieces := space.toList.map listed
  let (text, _) := pieces.foldl
    (fun ((text, column) : String × Nat) piece =>
      if width > 1 && column + piece.length > width - 1 then (text ++ "\\\n" ++ piece, piece.length)
      else (text ++ piece, column + piece.length))
    ("", 0)
  text ++ "$\n"

/-- The part of the pattern space before its first line end, and the part behind it if there is one. -/
def firstLine (space : String) : String × Option String :=
  let characters := space.toList
  let line := characters.takeWhile (· != '\n')
  match characters.drop line.length with
  | _ :: rest => (String.ofList line, some (String.ofList rest))
  | [] => (String.ofList line, none)

/-- Takes the next line of a file that is read one by one. -/
def readLine (name : String) (setting : Setting) (state : Editing) : Option String × Editing :=
  let lines := match state.readers.lookup name with
    | some lines => lines
    | none =>
      match setting.content? name with
      | some content =>
        let pieces := content.splitOn "\n"
        if pieces.getLast? == some "" then pieces.dropLast else pieces
      | none => []
  let others := state.readers.filter fun (other, _) => other != name
  match lines with
  | [] => (none, { state with readers := (name, []) :: others })
  | line :: rest => (some line, { state with readers := (name, rest) :: others })

/-- Carries out an action; `position` is that of its command. -/
def act (setting : Setting) (position : Nat) (action : Action) (state : Editing) : Editing :=
  let goOn (state : Editing) : Editing :=
    match state.phase with
    | .over _ => state
    | _ => { state with phase := .command (position + 1) }
  let close := String.ofList [setting.lineEnd]
  match action with
  | .block _ | .nothing => goOn state
  | .jump kind target =>
    let jumps := match kind with
      | .always => true
      | .ifReplaced => state.hasReplaced
      | .unlessReplaced => !state.hasReplaced
    let state := if kind == .always then state else { state with hasReplaced := false }
    if jumps then { state with phase := .command target } else goOn state
  | .append text => goOn { state with pending := state.pending ++ [(text, false)] }
  | .insert text =>
    goOn (if text.isEmpty then state else { state with outlet := state.outlet.write text })
  | .change text =>
    let isWithin := match (state.rows[position]?).getD .outside with
      | .inside _ => true
      | _ => false
    let state := if isWithin || text.isEmpty then state
      else { state with outlet := state.outlet.write text }
    { state with phase := .dropped }
  | .delete => { state with phase := .dropped }
  | .deleteFirst =>
    match firstLine state.space with
    | (_, none) => { state with phase := .dropped }
    | (_, some rest) => { state with space := rest, phase := .again }
  | .get => goOn { state with space := state.held }
  | .getAppend => goOn { state with space := state.space ++ close ++ state.held }
  | .hold => goOn { state with held := state.space }
  | .holdAppend => goOn { state with held := state.held ++ close ++ state.space }
  | .exchange => goOn { state with space := state.held, held := state.space }
  | .print => goOn (state.printSpace setting)
  | .printFirst =>
    goOn { state with outlet := state.outlet.write ((firstLine state.space).1 ++ close) }
  | .next =>
    if state.ahead.isEmpty then { state with phase := .lineDone }
    else
      let state := if setting.isSilent then state else state.printSpace setting
      match state.takeLine setting with
      | some state => goOn state
      | none => { state with phase := .over 0 }
  | .nextAppend =>
    if state.ahead.isEmpty then { state with phase := .lineDone }
    else
      let before := state.space
      match state.takeLine setting with
      | some state => goOn { state with space := before ++ close ++ state.space }
      | none => { state with phase := .over 0 }
  | .number => goOn { state with outlet := state.outlet.write (toString state.number ++ "\n") }
  | .fileName =>
    goOn { state with
      outlet := state.outlet.write ((setting.fileNames[state.file]?).getD "-" ++ "\n") }
  | .clear => goOn { state with space := "" }
  | .list width =>
    goOn { state with
      outlet := state.outlet.write (list (width.getD setting.width) state.space) }
  | .quit status isSilent =>
    let state := if isSilent then { state with pending := [] }
      else if setting.isSilent then state else state.printSpace setting
    { state.flush with phase := .over status }
  | .readFile name =>
    let text := (setting.content? name).getD ""
    goOn { state with pending := state.pending ++ [(text, false)] }
  | .readLine name =>
    let (line?, state) := state.readLine name setting
    goOn { state with pending := state.pending ++ line?.toList.map fun line => (line ++ "\n", true) }
  | .write name => goOn (state.writeTo name state.space state.hasEnd setting)
  | .writeFirst name => goOn (state.writeTo name (firstLine state.space).1 true setting)
  | .substitute substitution => goOn (state.substitute setting substitution)
  | .translate pairs =>
    let swap (c : Char) : Char := (pairs.lookup c).getD c
    goOn { state with space := state.space.map swap }

/-- Ends the line: takes the next one, if there is one. -/
def nextCycle (setting : Setting) (state : Editing) : Editing :=
  match state.takeLine setting with
  | some state => { state with phase := .command 0 }
  | none => { state.flush with phase := .over 0 }

/-- Carries out one command, or what is to be done between lines. -/
def step (setting : Setting) (state : Editing) : Editing :=
  match state.phase with
  | .over _ => state
  | .lineDone =>
    (if setting.isSilent then state else state.printSpace setting).nextCycle setting
  | .dropped => state.nextCycle setting
  | .again => { state.flush with phase := .command 0 }
  | .command position =>
    match setting.script[position]? with
    | none => { state with phase := .lineDone }
    | some command =>
      let (isSelected, state) := state.selects setting position command.selection
      match state.phase, command.action with
      | .over _, _ => state
      | _, .block after =>
        { state with phase := .command (if isSelected then position + 1 else after) }
      | _, action =>
        if isSelected then state.act setting position action
        else { state with phase := .command (position + 1) }

/-- Runs the script on all lines; what is left to do when `fuel` is used up is never done. -/
def run (setting : Setting) : (fuel : Nat) → Editing → Editing
  | 0, state => state
  | fuel + 1, state =>
    match state.phase with
    | .over _ => state
    | _ => run setting fuel (state.step setting)

/-- The state before the first line. A row that begins before it is begun. -/
def start (setting : Setting) (lines : List InputLine) : Editing :=
  { ahead := lines
    rows := setting.script.map fun command =>
      match command.selection.start with
      | some (.number 0) => .inside none
      | _ => .outside }

end Editing

end RunMeter.Shell.Edit
