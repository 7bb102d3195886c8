import RunMeter.Shell.Tool.Listing

/-!
# Differences of files

What two rows of lines have in common is a longest row of lines that can be found in both in the same
order. The rest is divided into changes: a stretch of the first row that is replaced by a stretch of
the second, one of which may be empty. Lines that agree at the start of what is left always belong to
some longest common row, so changes stand as far towards the end as they can.
-/

set_option autoImplicit false

namespace RunMeter.Shell.Tool

/-! ## Changes -/

/-- A change: the stretches `[start, stop)` of both rows. -/
structure Change where
  start : Nat
  stop : Nat
  start' : Nat
  stop' : Nat
deriving DecidableEq, Repr

/-- The lengths of the longest common rows of one row and of every end of another: from those for the
row without its first line. -/
def commonLengths (line : String) (others : List String) (below : List Nat) : List Nat :=
  match others, below with
  | other :: others, length :: below =>
    let rest := commonLengths line others below
    let diagonal := below.headD 0
    (if line == other then diagonal + 1 else max length (rest.headD 0)) :: rest
  | _, _ => [0]

/-- The tables of lengths for all ends of the first row, the longest end first. -/
def commonTable (others : List String) : List String → List (List Nat)
  | [] => [others.map (fun _ => 0) ++ [0]]
  | line :: lines =>
    let below := commonTable others lines
    commonLengths line others (below.headD []) :: below

/-- The changes that lead from one row to another. `table` holds the lengths for what is left, `open'`
is where the change at hand began. `fuel` is more than the number of lines. -/
def changesBy (i j : Nat) (start : Option (Nat × Nat)) : (fuel : Nat) → (table : List (List Nat)) →
    List String → List String → List Change
  | 0, _, _, _ => []
  | fuel + 1, table, as, bs =>
    let begun := start.getD (i, j)
    let ended : List Change :=
      match start with
      | some (a, b) => [{ start := a, stop := i, start' := b, stop' := j }]
      | none => []
    match as, bs with
    | [], [] => ended
    | [], _ :: bs => changesBy i (j + 1) (some begun) fuel table [] bs
    | _ :: as, [] => changesBy (i + 1) j (some begun) fuel table as []
    | a :: as, b :: bs =>
      let row := table.headD []
      let below := (table.drop 1).headD []
      if a == b then
        ended ++ changesBy (i + 1) (j + 1) none fuel ((table.drop 1).map (·.drop 1)) as bs
      else if row.getD 1 0 ≤ below.headD 0 then
        changesBy (i + 1) j (some begun) fuel (table.drop 1) as (b :: bs)
      else changesBy i (j + 1) (some begun) fuel (table.map (·.drop 1)) (a :: as) bs

/-- The number of lines at the start that two rows share. -/
def sharedLead : List String → List String → Nat
  | a :: as, b :: bs => if a == b then sharedLead as bs + 1 else 0
  | _, _ => 0

/-- The changes that lead from one row of lines to another. The last of them moves over at most `reach`
of the lines at the end that both rows share. -/
def changes (reach : Nat) (as bs : List String) : List Change :=
  let lead := sharedLead as bs
  let as := as.drop lead
  let bs := bs.drop lead
  let tail := sharedLead as.reverse bs.reverse
  let first := as.take (as.length - tail)
  let second := bs.take (bs.length - tail)
  let slack := (as.drop first.length).take reach
  let found := changesBy lead lead none (first.length + second.length + 1) (commonTable second first)
    first second
  -- an insertion or a deletion at the end of what differs may move into what is shared
  let slid (change : Change) : Nat :=
    if change.start = change.stop then
      let moved := (bs.drop (change.start' - lead)).take (change.stop' - change.start')
      sharedLead (moved ++ slack) slack
    else if change.start' = change.stop' then
      let moved := (as.drop (change.start - lead)).take (change.stop - change.start)
      sharedLead (moved ++ slack) slack
    else 0
  match found.getLast? with
  | none => []
  | some last =>
    let touchesEnd := last.stop = lead + first.length && last.stop' = lead + second.length
    let distance := if touchesEnd then slid last else 0
    found.dropLast ++
      [{ start := last.start + distance, stop := last.stop + distance,
         start' := last.start' + distance, stop' := last.stop' + distance }]

/-! ## Output -/

/-- A line behind a mark, and a note if it does not end. -/
def markedLine (mark line : String) : String :=
  if line.endsWith "\n" then mark ++ line
  else mark ++ line ++ "\n\\ No newline at end of file\n"

/-- Lines behind a mark. -/
def markedLines (mark : String) (lines : List String) : String :=
  String.join (lines.map (markedLine mark))

/-- A stretch of lines as it stands in the head of a plain change. -/
def plainRange (start stop : Nat) : String :=
  if stop ≤ start then toString start
  else if stop = start + 1 then toString stop
  else toString (start + 1) ++ "," ++ toString stop

/-- A plain change. -/
def plainChange (as bs : List String) (change : Change) : String :=
  let removed := (as.drop change.start).take (change.stop - change.start)
  let added := (bs.drop change.start').take (change.stop' - change.start')
  let letter := if removed.isEmpty then "a" else if added.isEmpty then "d" else "c"
  plainRange change.start change.stop ++ letter ++ plainRange change.start' change.stop' ++ "\n" ++
    markedLines "< " removed ++
    (if removed.isEmpty || added.isEmpty then "" else "---\n") ++
    markedLines "> " added

/-- A stretch of lines as it stands in the head of a group of changes. -/
def groupRange (start stop : Nat) : String :=
  let count := stop - start
  if count = 1 then toString stop
  else if count = 0 then toString start ++ ",0"
  else toString (start + 1) ++ "," ++ toString count

/-- Changes that stand so close that the lines around them meet. -/
def grouped (around : Nat) : List Change → List (List Change)
  | [] => []
  | change :: rest =>
    match grouped around rest with
    | (next :: others) :: groups =>
      if next.start - change.stop ≤ 2 * around then (change :: next :: others) :: groups
      else [change] :: (next :: others) :: groups
    | groups => [change] :: groups

/-- The lines of a group from a place on. -/
def groupLines (as bs : List String) (stop : Nat) : (place : Nat) → List Change → String
  | place, [] => markedLines " " ((as.drop place).take (stop - place))
  | place, change :: rest =>
    markedLines " " ((as.drop place).take (change.start - place)) ++
      markedLines "-" ((as.drop change.start).take (change.stop - change.start)) ++
      markedLines "+" ((bs.drop change.start').take (change.stop' - change.start')) ++
      groupLines as bs stop change.stop rest

/-- A group of changes with the lines around them. -/
def group (around : Nat) (as bs : List String) (changes : List Change) : String :=
  match changes, changes.getLast? with
  | first :: _, some last =>
    let before := min around first.start
    let start := first.start - before
    let stop := min as.length (last.stop + around)
    let start' := first.start' - before
    let stop' := min bs.length (last.stop' + around)
    "@@ -" ++ groupRange start stop ++ " +" ++ groupRange start' stop' ++ " @@\n" ++
      groupLines as bs stop start changes
  | _, _ => ""

/-! ## `diff` -/

/-- How files are compared. -/
structure DiffStyle where
  given : Given
  /-- The lines shown around changes, if changes are shown in groups. -/
  around : Option Nat
  /-- The options as they are shown above the changes of files in directories. -/
  shownOptions : String

namespace DiffStyle

/-- What of a line counts. -/
def key (style : DiffStyle) (line : String) : String :=
  let given := style.given
  let blank (c : Char) : Bool := c == ' ' || ('\t' ≤ c && c ≤ '\r')
  let text := line.toList
  let text :=
    if given.has 'w' then text.filter fun c => !blank c
    else if given.hasAny ['b', 'Z'] then
      let trimmed := (text.reverse.dropWhile blank).reverse
      if given.has 'b' then squeezed blank trimmed else trimmed
    else text
  String.ofList (if given.has 'i' then text.map Char.toLower else text)
where
  /-- Blanks in a row become one. -/
  squeezed (blank : Char → Bool) : List Char → List Char
    | a :: b :: rest =>
      if blank a && blank b then squeezed blank (b :: rest)
      else (if blank a then ' ' else a) :: squeezed blank (b :: rest)
    | rest => rest

/-- The head of a file above groups of changes. -/
def fileHead (style : DiffStyle) (place : Nat) (mark name : String) : String :=
  let label := (style.given.values 'L')[place]?
  let moment := Moment.of epoch 0 0
  mark ++ " " ++ label.getD (name ++ "\t" ++ moment.render "%Y-%m-%d %H:%M:%S.%N %z") ++ "\n"

/-- Shows the differences of two texts. The second result says whether there are any. -/
def texts (style : DiffStyle) (head name name' text text' : String) : String × Bool :=
  let given := style.given
  if text == text' then ("", false)
  else if (text.contains '\x00' || text'.contains '\x00') && !given.has 'a' then
    ((if given.has 'q' then "Files " ++ name ++ " and " ++ name' ++ " differ\n"
      else head ++ "Binary files " ++ name ++ " and " ++ name' ++ " differ\n"), true)
  else
    let as := linesOf text
    let bs := linesOf text'
    let found := changes (style.around.getD 0) (as.map style.key) (bs.map style.key)
    let isBlank (line : String) : Bool := line.all fun c => c == '\n'
    let counts (change : Change) : Bool :=
      !(given.has 'B' &&
        ((as.drop change.start).take (change.stop - change.start)).all isBlank &&
        ((bs.drop change.start').take (change.stop' - change.start')).all isBlank)
    let found := found.filter counts
    if found.isEmpty then ("", false)
    else if given.has 'q' then ("Files " ++ name ++ " and " ++ name' ++ " differ\n", true)
    else
      match style.around with
      | none => (head ++ String.join (found.map (plainChange as bs)), true)
      | some around =>
        (head ++ style.fileHead 0 "---" name ++ style.fileHead 1 "+++" name' ++
          String.join ((grouped around found).map (group around as bs)), true)

/-- Compares two files. A missing one counts as empty if that is wanted. -/
def files (style : DiffStyle) (head name name' : String) (run : Run) : Run :=
  let read (name : String) (run : Run) : Except FileFault String × Run :=
    match contents run name with
    | (.error .notFound, run) =>
      if style.given.has 'N' then (.ok "", run) else (.error .notFound, run)
    | result => result
  let (first, run) := read name run
  let (second, run) := read name' run
  match first, second with
  | .ok text, .ok text' =>
    let (output, differs) := style.texts head name name' text text'
    let run := run.print output
    if differs then run.ended (max 1 run.process.status)
    else if style.given.has 's' then
      run.print ("Files " ++ name ++ " and " ++ name' ++ " are identical\n")
    else run
  | first, second =>
    let complain (name : String) (result : Except FileFault String) (run : Run) : Run :=
      match result with
      | .error fault => failWith 2 run (name ++ ": " ++ faultText fault)
      | .ok _ => run
    complain name' second (complain name first run)

/-- Compares two directories. `fuel` is more than the depth of what lies in them. -/
def directories (style : DiffStyle) : (fuel : Nat) → (name name' : String) → Run → Run
  | 0, _, _, run => run
  | fuel + 1, name, name', run =>
    let list (name : String) : List (String × FileNode) :=
      match run.locate name with
      | .ok path => (members run.machine.files path).map fun (step, node) => (Text.octets step, node)
      | .error _ => []
    let first := list name
    let second := list name'
    let excluded := style.given.values 'x'
    let steps := ((first ++ second).map (·.1)).eraseDups.mergeSort fun a b => a ≤ b
    let steps := steps.filter fun step =>
      !excluded.any fun text =>
        (Pattern.ofMarks (text.toList.map fun c => (c, false))).accepts step.toList
    steps.foldl
      (fun run step =>
        let path := name ++ "/" ++ step
        let path' := name' ++ "/" ++ step
        let only (place : String) (run : Run) : Run :=
          (run.print ("Only in " ++ place ++ ": " ++ step ++ "\n")).ended (max 1 run.process.status)
        let head := "diff" ++ style.shownOptions ++ " " ++ path ++ " " ++ path' ++ "\n"
        match first.lookup step, second.lookup step with
        | some (.directory _), some (.directory _) =>
          if style.given.has 'r' then style.directories fuel path path' run
          else run.print ("Common subdirectories: " ++ path ++ " and " ++ path' ++ "\n")
        | some (.directory _), none => only name run
        | none, some (.directory _) => only name' run
        | some (.directory _), some node =>
          (run.print ("File " ++ path ++ " is a directory while file " ++ path' ++ " is a " ++
            kindText node ++ "\n")).ended (max 1 run.process.status)
        | some node, some (.directory _) =>
          (run.print ("File " ++ path ++ " is a " ++ kindText node ++ " while file " ++ path' ++
            " is a directory\n")).ended (max 1 run.process.status)
        | some _, some _ => style.files head path path' run
        | some _, none => if style.given.has 'N' then style.files head path path' run else only name run
        | none, some _ => if style.given.has 'N' then style.files head path path' run else only name' run
        | none, none => run)
      run

end DiffStyle

/-- Shows the differences of two files or directories. -/
def diff (args : List String) (run : Run) : Run :=
  let table : OptionTable :=
    { short := "abBdiI:L:nNpqrsTuU:wx:Z"
      long :=
        [("brief", .nothing, 'q'), ("report-identical-files", .nothing, 's'), ("unified", .optional, 'U'),
          ("recursive", .nothing, 'r'), ("new-file", .nothing, 'N'), ("ignore-case", .nothing, 'i'),
          ("ignore-space-change", .nothing, 'b'), ("ignore-all-space", .nothing, 'w'),
          ("ignore-trailing-space", .nothing, 'Z'), ("ignore-blank-lines", .nothing, 'B'),
          ("text", .nothing, 'a'), ("label", .required, 'L'), ("exclude", .required, 'x'),
          ("minimal", .nothing, 'd'), ("color", .optional, '1'), ("normal", .nothing, '2'),
          ("strip-trailing-cr", .nothing, '3')] }
  let misused (run : Run) (text : String) : Run :=
    let run := failWith 2 run text
    failWith 2 run ("Try '" ++ run.process.name ++ " --help' for more information.")
  match table.read args with
  | .error fault => misused run fault.message
  | .ok given =>
    let around : Option Nat :=
      match given.last? ['u', 'U', '2'] with
      | some 'u' => some 3
      | some 'U' => some (((given.value? 'U').bind String.toNat?).getD 3)
      | _ => none
    let shownOptions := String.join ((args.filter fun arg =>
      arg.startsWith "-" && arg != "-").map (" " ++ ·))
    let style : DiffStyle := { given, around, shownOptions }
    match given.operands with
    | [] => misused run "missing operand after 'diff'"
    | [name] => misused run ("missing operand after " ++ quoted name)
    | [name, name'] =>
      let run := run.ended 0
      let isDirectory (name : String) : Bool := name != "-" && run.asksFile "-d" name
      let inside (directory name : String) : String :=
        directory ++ "/" ++ ((name.splitOn "/").getLast?).getD name
      let missing (name : String) : Bool := name != "-" && !given.has 'N' && !run.asksFile "-e" name
      if missing name || missing name' then
        let complain (name : String) (run : Run) : Run :=
          if missing name then failWith 2 run (name ++ ": " ++ faultText .notFound) else run
        complain name' (complain name run)
      else if isDirectory name && isDirectory name' then style.directories 64 name name' run
      else if isDirectory name then style.files "" (inside name name') name' run
      else if isDirectory name' then style.files "" name (inside name' name) run
      else style.files "" name name' run
    | _ :: _ :: operand :: _ => misused run ("extra operand " ++ quoted operand)

end RunMeter.Shell.Tool
