import RunMeter.Shell.Pattern
import RunMeter.Shell.Regex.Reader
import RunMeter.Shell.Tool.Basic

/-!
# Searching files for lines

`grep` and its kin: which lines of which files hold what is looked for, and what is shown of them.
-/

set_option autoImplicit false

namespace RunMeter.Shell.Tool

/-- Complains about the arguments of a search. -/
def searchMisuse (run : Run) (text : String) : Run :=
  let lead := if text.isEmpty then "" else run.process.name ++ ": " ++ text ++ "\n"
  let name := run.process.name
  (run.write 2 (lead ++ "Usage: " ++ name ++ " [OPTION]... PATTERNS [FILE]...\nTry '" ++ name ++
    " --help' for more information.\n")).ended 2

/-- The options of a search. -/
def searchTable : OptionTable :=
  { short := "0123456789EFGPe:f:iyvwxcm:bHhnoqsaIrRUzZTlLuA:B:C:"
    long :=
      [("extended-regexp", .nothing, 'E'), ("fixed-strings", .nothing, 'F'),
        ("basic-regexp", .nothing, 'G'), ("perl-regexp", .nothing, 'P'),
        ("regexp", .required, 'e'), ("file", .required, 'f'), ("ignore-case", .nothing, 'i'),
        ("no-ignore-case", .nothing, '1'), ("invert-match", .nothing, 'v'),
        ("word-regexp", .nothing, 'w'), ("line-regexp", .nothing, 'x'), ("count", .nothing, 'c'),
        ("max-count", .required, 'm'), ("byte-offset", .nothing, 'b'),
        ("with-filename", .nothing, 'H'), ("no-filename", .nothing, 'h'),
        ("line-number", .nothing, 'n'), ("only-matching", .nothing, 'o'),
        ("quiet", .nothing, 'q'), ("silent", .nothing, 'q'), ("no-messages", .nothing, 's'),
        ("text", .nothing, 'a'), ("binary-files", .required, '2'), ("recursive", .nothing, 'r'),
        ("dereference-recursive", .nothing, 'R'), ("null-data", .nothing, 'z'),
        ("null", .nothing, 'Z'), ("files-with-matches", .nothing, 'l'),
        ("files-without-match", .nothing, 'L'), ("after-context", .required, 'A'),
        ("before-context", .required, 'B'), ("context", .required, 'C'),
        ("color", .optional, '3'), ("colour", .optional, '3'), ("label", .required, '4'),
        ("include", .required, '5'), ("exclude", .required, '6'), ("line-buffered", .nothing, '7'),
        ("directories", .required, '8'), ("exclude-dir", .required, '9'),
        ("initial-tab", .nothing, 'T'), ("binary", .nothing, 'U')] }

/-- What is looked for. -/
structure SearchGoal where
  regexes : List Regex
  isInverted : Bool := false

/-- The first of the longest matches that begin first, from a place on. -/
def SearchGoal.find? (goal : SearchGoal) (text : Array Char) (start : Nat) : Option Found :=
  goal.regexes.foldl
    (fun best regex =>
      match best, regex.find? text start with
      | none, found => found
      | best, none => best
      | some best, some found =>
        if found.start < best.start || (found.start == best.start && best.stop < found.stop) then
          some found
        else some best)
    none

/-- Whether a line is one of those looked for. -/
def SearchGoal.selects (goal : SearchGoal) (line : Array Char) : Bool :=
  (goal.find? line 0).isSome != goal.isInverted

/-- All matches in a line that are not empty, from a place on. `fuel` is more than its length. -/
def SearchGoal.matches (goal : SearchGoal) (line : Array Char) : (fuel : Nat) → Nat → List Found
  | 0, _ => []
  | fuel + 1, start =>
    match goal.find? line start with
    | none => []
    | some found =>
      if found.start = found.stop then
        if found.stop ≥ line.size then [] else goal.matches line fuel (found.stop + 1)
      else found :: goal.matches line fuel found.stop

/-- How a search shows what it finds. -/
structure SearchStyle where
  showsNames : Bool := false
  showsNumbers : Bool := false
  showsOffsets : Bool := false
  showsMatches : Bool := false
  nameEnd : String := ""
  before : Nat := 0
  after : Nat := 0
  hasContext : Bool := false
  limit : Option Nat := none
  lineEnd : Char := '\n'

/-- A line of a file under search. -/
structure SearchLine where
  number : Nat
  offset : Nat
  text : String
  isSelected : Bool

/-- The lines of a text up to the last one of interest, and how many are selected. -/
def searchLines (goal : SearchGoal) (style : SearchStyle) (text : String) : List SearchLine × Nat :=
  let records := recordsOf style.lineEnd text
  let (reversed, count, _, _) := records.foldl
    (fun ((done, count, number, offset) : List SearchLine × Nat × Nat × Nat) record =>
      let isOver := style.limit.any (· ≤ count)
      let isSelected := !isOver && goal.selects record.toList.toArray
      ({ number, offset, text := record, isSelected } :: done,
        if isSelected then count + 1 else count, number + 1, offset + record.length + 1))
    ([], 0, 1, 0)
  (reversed.reverse, count)

/-- The lead of a shown line. -/
def SearchStyle.lead (style : SearchStyle) (name : String) (mark : String) (line : SearchLine)
    (offset : Nat) : String :=
  (if style.showsNames then name ++ (if style.nameEnd.isEmpty then mark else style.nameEnd) else "") ++
    (if style.showsNumbers then toString line.number ++ mark else "") ++
    (if style.showsOffsets then toString (line.offset + offset) ++ mark else "")

/-- What is shown of a selected line. -/
def SearchStyle.selected (style : SearchStyle) (goal : SearchGoal) (name : String)
    (line : SearchLine) : String :=
  let close := String.ofList [style.lineEnd]
  if style.showsMatches then
    if goal.isInverted then ""
    else
      let characters := line.text.toList.toArray
      String.join ((goal.matches characters (characters.size + 2) 0).map fun found =>
        style.lead name ":" line found.start ++
          String.ofList ((characters.extract found.start found.stop).toList) ++ close)
  else style.lead name ":" line 0 ++ line.text ++ close

/-- The numbers of the lines that are shown around selected ones: from the first to the last of each
row of lines that touch. -/
def shownRows (style : SearchStyle) (selected : List Nat) (last : Nat) : List (Nat × Nat) :=
  (selected.foldl
    (fun (rows : List (Nat × Nat)) number =>
      let low := max 1 (number - style.before)
      let high := min last (number + style.after)
      match rows with
      | (start, stop) :: rest =>
        if low ≤ stop + 1 then (start, max stop high) :: rest else (low, high) :: rows
      | [] => [(low, high)])
    []).reverse

/-- What is shown of a file. -/
def SearchStyle.shown (style : SearchStyle) (goal : SearchGoal) (name : String)
    (lines : List SearchLine) : List String :=
  if !style.hasContext then
    [String.join ((lines.filter (·.isSelected)).map (style.selected goal name))]
  else
    let close := String.ofList [style.lineEnd]
    let table := lines.toArray
    let rows := shownRows style ((lines.filter (·.isSelected)).map (·.number)) table.size
    rows.map fun (low, high) =>
      String.join (((table.extract (low - 1) high).toList).map fun line =>
        if line.isSelected then style.selected goal name line
        else if style.showsMatches then ""
        else style.lead name "-" line 0 ++ line.text ++ close)

/-- What a search does with a file. -/
structure SearchTask where
  goal : SearchGoal
  style : SearchStyle
  given : Given

/-- How far a search has come. -/
structure SearchState where
  run : Run
  hasFound : Bool := false
  hasFailed : Bool := false
  /-- Whether a row of lines has been shown. -/
  hasShown : Bool := false

/-- Searches one text. -/
def SearchTask.take (task : SearchTask) (state : SearchState) (name text : String) : SearchState :=
  let given := task.given
  let (lines, count) := searchLines task.goal task.style text
  let found := count > 0
  let close := if given.has 'Z' then String.ofList [Char.ofNat 0] else "\n"
  if given.has 'q' then { state with hasFound := state.hasFound || found }
  else if given.last? ['l', 'L'] == some 'l' then
    { state with
      hasFound := state.hasFound || found
      run := if found then state.run.print (name ++ close) else state.run }
  else if given.last? ['l', 'L'] == some 'L' then
    { state with
      hasFound := state.hasFound || found
      run := if found then state.run else state.run.print (name ++ close) }
  else if given.has 'c' then
    let lead := if task.style.showsNames then
        name ++ (if task.style.nameEnd.isEmpty then ":" else task.style.nameEnd) else ""
    { state with
      hasFound := state.hasFound || found
      run := state.run.print (lead ++ toString count ++ "\n") }
  else
    let isBinary := !given.has 'a' && !given.has 'z' && text.contains (Char.ofNat 0)
    let treatment := (given.value? '2').getD "binary"
    if isBinary && (given.has 'I' || treatment == "without-match") then state
    else if isBinary && treatment != "text" then
      if found then
        { state with
          hasFound := true
          run := state.run.write 2 (state.run.process.name ++ ": " ++ name ++
            ": binary file matches\n") }
      else state
    else
      let rows := (task.style.shown task.goal name lines).filter (!·.isEmpty)
      let run := rows.foldl
        (fun ((run, hasShown) : Run × Bool) row =>
          let run := if hasShown && task.style.hasContext then run.print "--\n" else run
          (run.print row, true))
        (state.run, state.hasShown)
      { state with
        hasFound := state.hasFound || found
        run := run.1
        hasShown := run.2 }

/-- Notes that a file cannot be searched. -/
def SearchTask.refuse (task : SearchTask) (state : SearchState) (name text : String) :
    SearchState :=
  { state with
    hasFailed := true
    run :=
      if task.given.has 's' then state.run
      else state.run.write 2 (state.run.process.name ++ ": " ++ name ++ ": " ++ text ++ "\n") }

/-- The files in a directory and below it, by the names that lead there. -/
def filesBelow (run : Run) (name : String) : List String :=
  match run.locate name with
  | .error _ => []
  | .ok path =>
    let entries := (run.machine.files.below path).filterMap fun (p, node) =>
      match node with
      | .file _ _ =>
        some (Text.octets (Text.octetText name ++ (if name.endsWith "/" then "" else "/") ++
          "/".intercalate (p.drop path.length)))
      | _ => none
    entries.mergeSort fun a b => a ≤ b

/-- The pattern of names that a glob stands for. -/
def globOf (text : String) : Pattern := Pattern.ofMarks (text.toList.map fun c => (c, false))

/-- Whether a file found below a directory is to be searched. -/
def SearchTask.wants (task : SearchTask) (name : String) : Bool :=
  let base := ((name.splitOn "/").getLast?.getD name).toList
  let included := task.given.values '5'
  let fitsAny (globs : List String) : Bool := globs.any fun glob => (globOf glob).accepts base
  (included.isEmpty || fitsAny included) && !fitsAny (task.given.values '6') &&
    !((name.splitOn "/").dropLast.any fun step =>
      (task.given.values '9').any fun glob => (globOf glob).accepts step.toList)

/-- Searches what a name stands for. -/
def SearchTask.file (task : SearchTask) (state : SearchState) (name : String) : SearchState :=
  if !state.run.goesOn then state
  else if name == "-" then
    let (text, run) := state.run.readAll 0
    if run.control == .stopped then { state with run }
    else task.take { state with run } ((task.given.value? '4').getD "(standard input)") text
  else
    let isDirectory := state.run.asksFile "-d" name
    if isDirectory && task.given.hasAny ['r', 'R'] then
      (filesBelow state.run name).foldl
        (fun state file =>
          let shown := if task.given.operands.isEmpty then (file.drop 2).toString else file
          if !task.wants file then state
          else
            match contents state.run file with
            | (.ok text, run) => task.take { state with run } shown text
            | (.error fault, run) => task.refuse { state with run } shown (faultText fault))
        state
    else if isDirectory && (task.given.value? '8') == some "skip" then state
    else
      match contents state.run name with
      | (.ok text, run) =>
        if run.control == .stopped then { state with run } else task.take { state with run } name text
      | (.error fault, run) => task.refuse { state with run } name (faultText fault)

/-- How the patterns of a search are written. -/
inductive SearchDialect
  | basic
  | extended
  | fixed
deriving DecidableEq, Repr

/-- The expression that a pattern stands for. -/
def searchRegex (dialect : SearchDialect) (given : Given) (pattern : String) :
    Except RegexFault Regex := do
  let ignoresCase := given.last? ['i', 'y', '1'] != some '1' && given.hasAny ['i', 'y']
  let regex ←
    match dialect with
    | .fixed => pure (Regex.ofText ignoresCase pattern.toList)
    | .basic => Regex.read { ignoresCase } pattern
    | .extended => Regex.read { isExtended := true, ignoresCase } pattern
  .ok (if given.has 'x' then .seq (.border .textStart) (.seq regex (.border .textEnd))
    else if given.has 'w' then .seq (.border .notAfterWord) (.seq regex (.border .notBeforeWord))
    else regex)

/-- What is odd about an extended expression that can still be read: an operator with nothing before
it. -/
def oddities (isStart : Bool) : (fuel : Nat) → List Char → List String
  | 0, _ => []
  | _, [] => []
  | fuel + 1, '\\' :: _ :: rest => oddities false fuel rest
  | fuel + 1, '[' :: rest =>
    let body := match rest with
      | '^' :: ']' :: more => more
      | ']' :: more => more
      | more => more
    oddities false fuel ((body.dropWhile (· != ']')).drop 1)
  | fuel + 1, c :: rest =>
    if c == '(' || c == '|' || c == '^' then oddities true fuel rest
    else if isStart && (c == '*' || c == '+' || c == '?') then
      (String.ofList [c] ++ " at start of expression") :: oddities false fuel rest
    else oddities false fuel rest

/-- Searches files by what was asked for. -/
def searchBy (dialect : SearchDialect) (given : Given) (patterns : List String) (run : Run) : Run :=
  match patterns.mapM (searchRegex dialect given) with
  | .error fault => failWith 2 run fault.message
  | .ok regexes =>
    let odd := if dialect == .extended then patterns.flatMap fun pattern =>
        oddities true (pattern.length + 1) pattern.toList else []
    let run := odd.foldl (fun run text =>
      run.write 2 (run.process.name ++ ": warning: " ++ text ++ "\n")) run
    let count? (letter : Char) : Option Nat := (given.value? letter).bind String.toNat?
    let digits := given.options.filterMap fun (letter, _) => if letter.isDigit then some letter else none
    let context := (count? 'C').getD ((String.ofList digits).toNat?.getD 0)
    let isRecursive := given.hasAny ['r', 'R']
    let names := if !given.operands.isEmpty then given.operands
      else if isRecursive then ["."] else ["-"]
    let showsNames := match given.last? ['H', 'h'] with
      | some 'H' => true
      | some _ => false
      | none => names.length > 1 || (isRecursive && (names.any (run.asksFile "-d" ·)))
    let style : SearchStyle :=
      { showsNames
        showsNumbers := given.has 'n'
        showsOffsets := given.has 'b'
        showsMatches := given.has 'o'
        nameEnd := if given.has 'Z' then String.ofList [Char.ofNat 0] else ""
        before := (count? 'B').getD context
        after := (count? 'A').getD context
        hasContext := (count? 'B').getD context > 0 || (count? 'A').getD context > 0
        limit := count? 'm'
        lineEnd := if given.has 'z' then Char.ofNat 0 else '\n' }
    let task : SearchTask := { goal := { regexes, isInverted := given.has 'v' }, style, given }
    let isFutile := style.limit == some 0 ||
      (patterns == [""] && given.has 'v' && !given.hasAny ['x', 'w'])
    let state := if isFutile && given.last? ['l', 'L'] != some 'L' then { run }
      else names.foldl task.file { run := run.ended 0 }
    let status :=
      if state.hasFound && (given.has 'q' || !state.hasFailed) then 0
      else if state.hasFailed then 2 else 1
    state.run.ended status

/-- Searches files. -/
def grep (standard : SearchDialect) (args : List String) (run : Run) : Run :=
  match searchTable.read args with
  | .error fault => searchMisuse run fault.message
  | .ok given =>
    let badContext := ['A', 'B', 'C'].findSome? fun letter =>
      (given.values letter).find? fun text => text.isEmpty || !text.toList.all Char.isDigit
    let badLimit := (given.values 'm').find? fun text =>
      text.toInt?.isNone
    match badContext, badLimit with
    | some text, _ => failWith 2 run (text ++ ": invalid context length argument")
    | _, some _ => failWith 2 run "invalid max count"
    | none, none =>
      let dialect := match given.last? ['E', 'F', 'G', 'P'] with
        | some 'F' => .fixed
        | some 'G' => .basic
        | some _ => .extended
        | none => standard
      let fromOptions := given.values 'e'
      let files := given.values 'f'
      if fromOptions.isEmpty && files.isEmpty then
        match given.operands with
        | [] => searchMisuse run ""
        | pattern :: operands =>
          searchBy dialect { given with operands } (pattern.splitOn "\n") run
      else
        let read : Except String (List String) × Run := files.foldl
          (fun ((patterns, run) : Except String (List String) × Run) file =>
            match patterns with
            | .error text => (.error text, run)
            | .ok patterns =>
              match contents run file with
              | (.ok text, run) => (.ok (patterns ++ recordsOf '\n' text), run)
              | (.error fault, run) => (.error (file ++ ": " ++ faultText fault), run))
          (.ok (fromOptions.flatMap fun text => text.splitOn "\n"), run)
        match read with
        | (.error text, run) => failWith 2 run text
        | (.ok patterns, run) => searchBy dialect given patterns run

end RunMeter.Shell.Tool
