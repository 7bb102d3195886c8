import RunMeter.Shell.Tool.Basic

/-!
# Tools on counts and columns

Counting lines, words and octets; cutting columns out of lines and pasting lines side by side;
comparing and joining files that are in order.
-/

set_option autoImplicit false

namespace RunMeter.Shell.Tool

/-! ## Counting -/

/-- Whether a character separates words. -/
def isSpaceOctet (c : Char) : Bool := c == ' ' || ('\t' ≤ c && c ≤ '\r')

/-- How many words a text has. -/
def wordCount (text : List Char) : Nat :=
  (text.foldl
    (fun (count, inWord) c =>
      if isSpaceOctet c then (count, false) else if inWord then (count, true) else (count + 1, true))
    (0, false)).1

/-- The length of the longest line, a tab reaching to the next multiple of eight. -/
def longestLine (text : List Char) : Nat :=
  let (longest, last) := text.foldl
    (fun ((longest, column) : Nat × Nat) c =>
      if c == '\n' || c == '\r' || c == '\x0c' then (max longest column, 0)
      else if c == '\t' then (longest, column + 8 - column % 8)
      else if ' ' ≤ c && c ≤ '~' then (longest, column + 1)
      else (longest, column))
    (0, 0)
  max longest last

/-- The counts that `wc` is asked for, in the order in which it shows them. -/
def wordCounts (given : Given) (text : String) : List Nat :=
  let characters := text.toList
  let isPlain := !given.hasAny ['l', 'w', 'c', 'm', 'L']
  (if given.has 'l' || isPlain then [characters.count '\n'] else []) ++
    (if given.has 'w' || isPlain then [wordCount characters] else []) ++
    (if given.has 'm' then [characters.length] else []) ++
    (if given.has 'c' || isPlain then [characters.length] else []) ++
    (if given.has 'L' then [longestLine characters] else [])

/-- Counts lines, words and octets. -/
def wc (args : List String) (run : Run) : Run :=
  let table : OptionTable :=
    { short := "clmwL"
      long :=
        [("bytes", .nothing, 'c'), ("chars", .nothing, 'm'), ("lines", .nothing, 'l'),
          ("words", .nothing, 'w'), ("max-line-length", .nothing, 'L')] }
  withOptions table 1 args run fun given run =>
    let names := if given.operands.isEmpty then ["-"] else given.operands
    let columns := (wordCounts given "").length
    -- the width is that of the size of all files, or seven if it is not known before
    let sources := names.map fun name =>
      if name == "-" then Except.ok (run.ahead 0) else run.sourceOf name
    let total := (sources.filterMap fun source => match source with
      | .ok source => if source.isFile then some source.rest.length else none
      | .error _ => none).foldl (· + ·) 0
    let hasUnknown := sources.any fun source => match source with
      | .ok source => !source.isFile
      | .error .isADirectory => true
      | .error _ => false
    let width :=
      if names.length = 1 && columns = 1 then 1
      else max (toString total).length (if hasUnknown then 7 else 1)
    let line (counts : List Nat) (name : String) : String :=
      " ".intercalate (counts.map fun n => leftPadded width (toString n)) ++
        (if name.isEmpty then "" else " " ++ name) ++ "\n"
    let zero := (wordCounts given "").map fun _ => 0
    let addTo (totals counts : List Nat) : List Nat :=
      ((totals.zip counts).zipIdx).map fun ((a, b), i) =>
        if given.has 'L' && i + 1 = columns then max a b else a + b
    let (run, totals) := names.foldl
      (fun ((run, totals) : Run × List Nat) name =>
        if !run.goesOn then (run, totals)
        else
          match contents run name with
          | (.ok text, run) =>
            let counts := wordCounts given text
            (run.print (line counts (if given.operands.isEmpty then "" else name)),
              addTo totals counts)
          | (.error .isADirectory, run) =>
            let (label, lead) := if given.operands.isEmpty then ("", "'standard input'")
              else (name, shown name)
            (fail (run.print (line zero label)) (lead ++ ": Is a directory"), totals)
          | (.error fault, run) => (fail run (shown name ++ ": " ++ faultText fault), totals))
      (run.ended 0, zero)
    if names.length > 1 && run.goesOn then run.print (line totals "total") else run

/-! ## Cutting -/

/-- A range of columns, which begin with one; the upper end may be open. -/
abbrev ColumnRange := Nat × Option Nat

/-- Whether a column lies in one of the ranges. -/
def inRanges (ranges : List ColumnRange) (column : Nat) : Bool :=
  ranges.any fun (low, high) => low ≤ column && high.all (column ≤ ·)

/-- What is wrong with a list of columns. -/
inductive ColumnFault
  | zero
  | decreasing
  | noEnds
  | invalid (text : String)

/-- Reads one range of a list of columns. -/
def columnRange (text : String) : Except ColumnFault ColumnRange :=
  let number (digits : String) : Except ColumnFault Nat :=
    if digits.all Char.isDigit && !digits.isEmpty then
      let n := Decimal.value digits.toList
      if n = 0 then .error .zero else .ok n
    else .error (.invalid text)
  match text.splitOn "-" with
  | [single] => do
    let n ← number single
    .ok (n, some n)
  | ["", ""] => .error .noEnds
  | ["", high] => do
    let n ← number high
    .ok (1, some n)
  | [low, ""] => do
    let n ← number low
    .ok (n, none)
  | [low, high] => do
    let a ← number low
    let b ← number high
    if b < a then .error .decreasing else .ok (a, some b)
  | _ => .error (.invalid text)

/-- The runs of kept columns, each as one piece. -/
def keptRuns (isKept : Nat → Bool) (items : List Char) : List (List Char) :=
  let (done, current, _) := items.foldl
    (fun ((done, current, column) : List (List Char) × List Char × Nat) c =>
      if isKept column then (done, c :: current, column + 1)
      else ((if current.isEmpty then done else current.reverse :: done), [], column + 1))
    ([], [], 1)
  ((if current.isEmpty then done else current.reverse :: done)).reverse

/-- Cuts columns out of lines. -/
def cut (args : List String) (run : Run) : Run :=
  let table : OptionTable :=
    { short := "b:c:d:f:nsz"
      long :=
        [("bytes", .required, 'b'), ("characters", .required, 'c'), ("fields", .required, 'f'),
          ("delimiter", .required, 'd'), ("only-delimited", .nothing, 's'),
          ("output-delimiter", .required, 'O'), ("complement", .nothing, 'C'),
          ("zero-terminated", .nothing, 'z')] }
  withOptions table 1 args run fun given run =>
    let lists := given.values 'b' ++ given.values 'c' ++ given.values 'f'
    let byFields := given.has 'f'
    match lists with
    | [] => misuse run "you must specify a list of bytes, characters, or fields"
    | [columns] =>
      if ((given.value? 'd').getD "x").length > 1 then
        misuse run "the delimiter must be a single character"
      else if given.has 'd' && !byFields then
        misuse run "an input delimiter may be specified only when operating on fields"
      else if given.has 's' && !byFields then
        misuse run
          "suppressing non-delimited lines makes sense\n\tonly when operating on fields"
      else
        let pieces := columns.splitOn "," |>.flatMap fun piece => piece.splitOn " "
        match pieces.mapM columnRange with
        | .error fault =>
          misuse run
            (match fault with
            | .zero =>
              if byFields then "fields are numbered from 1"
              else "byte/character positions are numbered from 1"
            | .decreasing => "invalid decreasing range"
            | .noEnds => "invalid range with no endpoint: -"
            | .invalid text =>
              if text.all fun c => c.isDigit || c == '-' then
                (if byFields then "invalid field range" else "invalid byte or character range")
              else
                (if byFields then "invalid field value '" else "invalid byte/character position '")
                  ++ text ++ "'")
        | .ok ranges =>
          let isKept (column : Nat) : Bool := inRanges ranges column != given.has 'C'
          let stop := if given.has 'z' then Char.ofNat 0 else '\n'
          let close := String.ofList [stop]
          let separator := match given.value? 'd' with
            | some "" => String.ofList [Char.ofNat 0]
            | some text => text
            | none => "\t"
          let joint := (given.value? 'O').getD (if byFields then separator else "")
          let cutLine (line : String) : String :=
            if byFields then
              if !line.contains (separator.toList.headD '\t') then
                if given.has 's' then "" else line ++ close
              else
                let fields := (line.splitOn separator).zipIdx.filter fun (_, i) => isKept (i + 1)
                joint.intercalate (fields.map (·.1)) ++ close
            else joint.intercalate ((keptRuns isKept line.toList).map String.ofList) ++ close
          forFiles shown
            (fun run _ text => run.print (String.join ((recordsOf stop text).map cutLine)))
            given.operands run
    | _ => misuse run "only one list may be specified"

/-! ## Pasting -/

/-- The separators that a list of them names. -/
def separatorList : List Char → List String
  | [] => []
  | '\\' :: 'n' :: rest => "\n" :: separatorList rest
  | '\\' :: 't' :: rest => "\t" :: separatorList rest
  | '\\' :: '0' :: rest => "" :: separatorList rest
  | '\\' :: '\\' :: rest => "\\" :: separatorList rest
  | c :: rest => String.ofList [c] :: separatorList rest

/-- Texts with separators between them, which are taken in turn. -/
def joinedInTurn (separators : List String) (texts : List String) : String :=
  match texts with
  | [] => ""
  | first :: rest =>
    let count := separators.length
    rest.zipIdx.foldl
      (fun whole (text, i) => whole ++ (separators[i % count]?).getD "" ++ text)
      first

/-- Puts the lines of files side by side. -/
def paste (args : List String) (run : Run) : Run :=
  let table : OptionTable :=
    { short := "d:sz"
      long := [("delimiters", .required, 'd'), ("serial", .nothing, 's'),
        ("zero-terminated", .nothing, 'z')] }
  withOptions table 1 args run fun given run =>
    let separators := match separatorList ((given.value? 'd').getD "\t").toList with
      | [] => [""]
      | separators => separators
    let names := if given.operands.isEmpty then ["-"] else given.operands
    match names.findSome? fun name =>
      if name == "-" then none
      else
        match run.sourceOf name with
        | .error .isADirectory => none
        | .error fault => some (name, fault)
        | .ok _ => none with
    | some (name, fault) =>
      if given.has 's' then fail run (shown name ++ ": " ++ faultText fault)
      else fail run (shown name ++ ": " ++ faultText fault)
    | none =>
      -- the standard input is shared by all its mentions
      let (input, run) := if names.contains "-" then run.readAll 0 else ("", run)
      let inputLines := recordsOf '\n' input
      let mentions := names.count "-"
      let columns := (names.foldl
        (fun ((done, seen) : List (List String) × Nat) name =>
          if name == "-" then
            let own := if given.has 's' then (if seen = 0 then inputLines else [])
              else (inputLines.zipIdx.filter fun (_, i) => i % mentions = seen).map (·.1)
            (own :: done, seen + 1)
          else
            let text := match run.sourceOf name with
              | .ok source => String.ofList source.rest
              | .error _ => ""
            (recordsOf '\n' text :: done, seen))
        ([], 0)).1.reverse
      if given.has 's' then
        (run.print (String.join (columns.map fun lines =>
          joinedInTurn separators lines ++ "\n"))).ended 0
      else
        let height := (columns.map List.length).foldl max 0
        let row (i : Nat) : String :=
          joinedInTurn separators (columns.map fun lines => (lines[i]?).getD "") ++ "\n"
        (run.print (String.join ((List.range height).map row))).ended 0

/-! ## Files that are in order -/

/-- The two files that a tool compares, or the complaint about them. -/
def twoFiles (given : Given) (run : Run) (use : String → String → Run → Run) : Run :=
  match given.operands with
  | [] => misuse run "missing operand"
  | [one] => misuse run ("missing operand after '" ++ one ++ "'")
  | [first, second] =>
    match contents run first with
    | (.error fault, run) => fail run (shown first ++ ": " ++ faultText fault)
    | (.ok a, run) =>
      match contents run second with
      | (.error fault, run) => fail run (shown second ++ ": " ++ faultText fault)
      | (.ok b, run) => if run.goesOn then use a b run else run
  | _ :: _ :: third :: _ => extraOperand run third

/-- A file that is compared line by line with another. -/
structure Compared where
  /-- The last lines that have been passed, the last one first. -/
  passed : List String := []
  rest : List String
  isAccused : Bool := false

/-- How far a comparison of two files has come. -/
structure Comparison where
  first : Compared
  second : Compared
  /-- The lines, the last one first, each with its column: one or two if only that file has it, three
  if both have. -/
  rows : List (Nat × String) := []
  /-- The files found to be out of order, the last one first. -/
  accused : List Nat := []

/-- Steps to the next line of a file. The order of its last two lines is looked at if `checks`. -/
def Compared.next (file : Compared) (checks : Bool) : Compared :=
  match file.rest with
  | [] => file
  | current :: rest =>
    let passed := current :: file.passed.take 1
    let pair := match rest, passed with
      | following :: _, _ => some (current, following)
      | [], [_, before] => some (before, current)
      | [], _ => none
    let isBad := checks && pair.any fun (a, b) => b < a
    { passed, rest, isAccused := file.isAccused || isBad }

/-- Steps both files on. -/
def Comparison.step (comparison : Comparison) (movesFirst movesSecond : Bool) (checks : Bool) :
    Comparison :=
  let first := if movesFirst then comparison.first.next checks else comparison.first
  let second := if movesSecond then comparison.second.next checks else comparison.second
  let accused := if first.isAccused && !comparison.first.isAccused then 1 :: comparison.accused
    else comparison.accused
  let accused := if second.isAccused && !comparison.second.isAccused then 2 :: accused else accused
  { comparison with first, second, accused }

/-- Compares two files to their ends. The order counts once a line has been found in one file only,
unless it counts always or never. `fuel` is more than the number of lines. -/
def compared (order : Option Bool) (isUnpaired : Bool) : (fuel : Nat) → Comparison → Comparison
  | 0, comparison => comparison
  | fuel + 1, comparison =>
    match comparison.first.rest, comparison.second.rest with
    | [], [] => comparison
    | a, b =>
      let column := match a, b with
        | a :: _, b :: _ => if a == b then 3 else if a < b then 1 else 2
        | _ :: _, [] => 1
        | [], _ => 2
      let line := if column == 2 then b.headD "" else a.headD ""
      let isUnpaired := isUnpaired || column != 3
      compared order isUnpaired fuel
        ({ comparison with rows := (column, line) :: comparison.rows }.step (column != 2)
          (column != 1) (order.getD isUnpaired))

/-- Shows which lines two files have in common. -/
def comm (args : List String) (run : Run) : Run :=
  let table : OptionTable :=
    { short := "123z"
      long := [("check-order", .nothing, 'k'), ("nocheck-order", .nothing, 'x'),
        ("output-delimiter", .required, 'O'), ("total", .nothing, 't'),
        ("zero-terminated", .nothing, 'z')] }
  withOptions table 1 args run fun given run =>
    twoFiles given run fun a b run =>
      let stop := if given.has 'z' then Char.ofNat 0 else '\n'
      let first := recordsOf stop a
      let second := recordsOf stop b
      let order := (given.last? ['k', 'x']).map (· == 'k')
      let comparison := compared order false (first.length + second.length + 1)
        { first := { rest := first }, second := { rest := second } }
      let rows := comparison.rows.reverse
      let shows (column : Nat) : Bool := !given.has (Char.ofNat (48 + column))
      let joint := (given.value? 'O').getD "\t"
      let lead (column : Nat) : String :=
        String.join (((List.range column).filter fun i => i ≥ 1 && shows i).map fun _ => joint)
      let close := String.ofList [stop]
      let run := run.print (String.join (rows.map fun (column, line) =>
        if shows column then lead column ++ line ++ close else ""))
      let run := if given.has 't' then
          let count (column : Nat) : String := toString (rows.filter (·.1 == column)).length
          run.print (count 1 ++ joint ++ count 2 ++ joint ++ count 3 ++ joint ++ "total" ++ close)
        else run
      let accuse (run : Run) (number : Nat) : Run :=
        fail run ("file " ++ toString number ++ " is not in sorted order")
      match comparison.accused.reverse with
      | [] => run.ended 0
      | first :: others =>
        if order == some true then accuse run first
        else fail ((first :: others).foldl accuse run) "input is not in sorted order"

/-- The fields of a line for `join`. -/
def joinFields (separator : Option String) (line : String) : List String :=
  match separator with
  | some text => line.splitOn text
  | none => (line.split fun c => c == ' ' || c == '\t').toList.filterMap fun piece =>
      if piece.isEmpty then none else some piece.toString

/-- Joins the lines of two files that agree in one field. -/
def join (args : List String) (run : Run) : Run :=
  let table : OptionTable :=
    { short := "1:2:a:e:ij:o:t:v:"
      long := [("ignore-case", .nothing, 'i'), ("header", .nothing, 'H'),
        ("check-order", .nothing, 'k'), ("nocheck-order", .nothing, 'x')] }
  withOptions table 1 args run fun given run =>
    twoFiles given run fun a b run =>
      let separator := given.value? 't'
      let joint := separator.getD " "
      let field (letter : Char) : Nat :=
        (((given.value? letter).orElse fun _ => given.value? 'j').bind String.toNat?).getD 1
      let folded (text : String) : String := if given.has 'i' then text.map Char.toLower else text
      let rows (text : String) (index : Nat) : List (String × List String) :=
        (recordsOf '\n' text).map fun line =>
          let fields := joinFields separator line
          (folded (fields.getD (index - 1) ""), fields)
      let first := rows a (field '1')
      let second := rows b (field '2')
      let without (fields : List String) (index : Nat) : List String :=
        (fields.zipIdx.filter fun (_, i) => i + 1 != index).map (·.1)
      let filler := (given.value? 'e').getD ""
      let format (x y : List String) : List String :=
        match given.value? 'o' with
        | some spec =>
          (spec.splitOn ",").map fun item =>
            match item.splitOn "." with
            | ["0"] =>
              let key := x[field '1' - 1]?.orElse fun _ => y[field '2' - 1]?
              key.getD filler
            | ["1", n] => (x[(n.toNat?.getD 1) - 1]?).getD filler
            | ["2", n] => (y[(n.toNat?.getD 1) - 1]?).getD filler
            | _ => filler
        | none =>
          let key := (x[field '1' - 1]?.orElse fun _ => y[field '2' - 1]?).getD ""
          key :: without x (field '1') ++ without y (field '2')
      let showsPairs := !given.has 'v'
      let unpaired (number : String) : Bool :=
        (given.values 'a').contains number || (given.values 'v').contains number
      let keys := (first.map (·.1) ++ second.map (·.1)).mergeSort fun a b => a ≤ b
      let keys := keys.foldr (fun key done => if done.head? == some key then done else key :: done) []
      let lines := keys.flatMap fun key =>
        let left := first.filter (·.1 == key)
        let right := second.filter (·.1 == key)
        if !left.isEmpty && !right.isEmpty then
          if showsPairs then left.flatMap fun (_, x) => right.map fun (_, y) => format x y else []
        else
          (if unpaired "1" then left.map fun (_, x) => format x [] else []) ++
            (if unpaired "2" then right.map fun (_, y) => format [] y else [])
      (run.print (String.join (lines.map fun fields => joint.intercalate fields ++ "\n"))).ended 0

/-- A character as `cmp` shows it. -/
def comparedOctet (c : Char) : String :=
  let n := c.toNat
  let low (n : Nat) : String :=
    if n < 32 then String.ofList ['^', Char.ofNat (n + 64)]
    else if n = 127 then "^?"
    else String.ofList [Char.ofNat n]
  if n < 128 then low n else "M-" ++ low (n - 128)

/-- What one file has more than the other, as `cmp` says it. -/
def comparedEnd (name : String) (shorter : List Char) (isTerse : Bool) : String :=
  "EOF on " ++ name ++
    if shorter.isEmpty then " which is empty"
    else
      " after byte " ++ toString shorter.length ++
        if isTerse then ""
        else
          let lines := shorter.count '\n'
          if shorter.getLast? == some '\n' then ", line " ++ toString lines
          else ", in line " ++ toString (lines + 1)

/-- Says where two files differ first. -/
def cmp (args : List String) (run : Run) : Run :=
  let table : OptionTable :=
    { short := "bi:ln:s", long := [("silent", .nothing, 's'), ("quiet", .nothing, 's'),
      ("verbose", .nothing, 'l'), ("bytes", .required, 'n'), ("print-bytes", .nothing, 'b'),
      ("ignore-initial", .required, 'i')] }
  withOptions table 2 args run fun given run =>
    match given.operands with
    | [] => misuseWith 2 run "missing operand after 'cmp'"
    | first :: rest =>
      let second := rest.headD "-"
      let skips (n : Nat) : Nat :=
        let texts := ((given.value? 'i').getD "0").splitOn ":"
        ((texts[n]?.orElse fun _ => texts.head?).bind count?).getD 0
      match contents run first with
      | (.error fault, run) =>
        if given.has 's' then run.ended 2 else failWith 2 run (first ++ ": " ++ faultText fault)
      | (.ok a, run) =>
        match contents run second with
        | (.error fault, run) =>
          if given.has 's' then run.ended 2 else failWith 2 run (second ++ ": " ++ faultText fault)
        | (.ok b, run) =>
          let limit := ((given.value? 'n').bind count?).getD (max a.length b.length)
          let x := (a.toList.drop (skips 0)).take limit
          let y := (b.toList.drop (skips 1)).take limit
          let octal (c : Char) : String := leftPadded 3 (String.ofList (Nat.toDigits 8 c.toNat))
          let differences := ((x.zip y).zipIdx).filter fun ((c, d), _) => c != d
          let run := if given.has 'l' then
              let width := (toString (max x.length y.length)).length
              run.print (String.join (differences.map fun ((c, d), i) =>
                leftPadded width (toString (i + 1)) ++ " " ++
                  if given.has 'b' then
                    octal c ++ " " ++ rightPadded 4 (comparedOctet c) ++ " " ++ octal d ++ " " ++
                      comparedOctet d ++ "\n"
                  else octal c ++ " " ++ octal d ++ "\n"))
            else run
          match differences with
          | ((c, d), i) :: _ =>
            if given.has 's' || given.has 'l' then run.ended 1
            else
              let line := (x.take i).count '\n' + 1
              let place := toString (i + 1) ++ ", line " ++ toString line
              (run.print (first ++ " " ++ second ++ " differ: " ++
                (if given.has 'b' then
                  "byte " ++ place ++ " is " ++ octal c ++ " " ++ comparedOctet c ++ " " ++
                    octal d ++ " " ++ comparedOctet d
                else "char " ++ place) ++ "\n")).ended 1
          | [] =>
            if x.length = y.length then run.ended 0
            else if given.has 's' then run.ended 1
            else
              let (name, shorter) := if x.length < y.length then (first, x) else (second, y)
              (run.write 2 (run.process.name ++ ": " ++
                comparedEnd name shorter (given.has 'l') ++ "\n")).ended 1

end RunMeter.Shell.Tool
