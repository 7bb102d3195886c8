import RunMeter.Shell.Tool.Basic

/-!
# Tools that show files

Whole files, their first or last parts, and their lines numbered, reversed or folded.
-/

set_option autoImplicit false

namespace RunMeter.Shell.Tool

/-! ## Whole files -/

/-- A character outside the printable ones written with carets. -/
def careted (showsTabs : Bool) (c : Char) : String :=
  let low (n : Nat) : String :=
    if n < 32 then String.ofList ['^', Char.ofNat (n + 64)]
    else if n = 127 then "^?"
    else String.ofList [Char.ofNat n]
  if c == '\t' && !showsTabs then "\t"
  else if c.toNat < 128 then low c.toNat
  else "M-" ++ low (c.toNat - 128)

/-- How far the output of `cat` has come. -/
structure CatState where
  number : Nat := 0
  isAtStart : Bool := true
  blanks : Nat := 0

/-- Takes one line for `cat`: what is shown of it. -/
def catLine (given : Given) (state : CatState) (line : String) : String × CatState :=
  let isBlank := line == "\n" && state.isAtStart
  let blanks := if isBlank then state.blanks + 1 else 0
  if given.has 's' && isBlank && blanks > 1 then ("", { state with blanks })
  else
    let numbersAll := given.has 'n' && !given.has 'b'
    let numbers := state.isAtStart && (numbersAll || (given.has 'b' && !isBlank))
    let number := if numbers then state.number + 1 else state.number
    let lead := if numbers then leftPadded 6 (toString number) ++ "\t" else ""
    let endsLine := line.endsWith "\n"
    let body := if endsLine then (line.dropEnd 1).toString else line
    let showsAll := given.hasAny ['v', 'A', 'e', 't']
    let showsTabs := given.hasAny ['T', 'A', 't']
    let showsEnds := given.hasAny ['E', 'A', 'e']
    let isCut := showsEnds && endsLine && !showsAll && body.endsWith "\r"
    let body := if isCut then (body.dropEnd 1).toString else body
    let body := if showsAll then String.join (body.toList.map (careted showsTabs))
      else if showsTabs then String.join (body.toList.map fun c =>
        if c == '\t' then "^I" else String.ofList [c])
      else body
    let body := if isCut then body ++ "^M" else body
    let close := if endsLine then (if showsEnds then "$\n" else "\n") else ""
    (lead ++ body ++ close, { number, isAtStart := endsLine, blanks })

/-- Puts files one after another. -/
def cat (args : List String) (run : Run) : Run :=
  let table : OptionTable :=
    { short := "benstuvAET"
      long :=
        [("number-nonblank", .nothing, 'b'), ("number", .nothing, 'n'),
          ("squeeze-blank", .nothing, 's'), ("show-nonprinting", .nothing, 'v'),
          ("show-ends", .nothing, 'E'), ("show-tabs", .nothing, 'T'), ("show-all", .nothing, 'A')] }
  withOptions table 1 args run fun given run =>
    if given.options.all fun (letter, _) => letter == 'u' then
      forFiles shown (fun run _ text => run.print text) given.operands run
    else
      let (text, run) := gathered shown given.operands run
      let (reversed, _) := (linesOf text).foldl
        (fun ((done, state) : List String × CatState) line =>
          let (written, state) := catLine given state line
          (written :: done, state))
        ([], {})
      run.print (String.join reversed.reverse)

/-- Shows the lines of files, the last one first. -/
def tac (args : List String) (run : Run) : Run :=
  withOptions { short := "brs:" } 1 args run fun given run =>
    forFiles (fun name => "failed to open '" ++ name ++ "' for reading")
      (fun run _ text => run.print (String.join (linesOf text).reverse)) given.operands run

/-- Shows lines with their characters reversed. -/
def rev (args : List String) (run : Run) : Run :=
  forFiles (fun name => "cannot open " ++ name)
    (fun run _ text =>
      run.print (String.join ((linesOf text).map fun line =>
        if line.endsWith "\n" then
          String.ofList (line.toList.dropLast.reverse) ++ "\n"
        else String.ofList line.toList.reverse)))
    (args.filter (· != "--")) run

/-! ## The beginning and the end -/

/-- What `head` and `tail` are asked to show of a file. -/
structure Extent where
  /-- Lines if set, octets otherwise. -/
  isLines : Bool := true
  /-- The sign before the count, if there is one. -/
  sign : Option Char := none
  count : Nat := 10
deriving DecidableEq, Repr

/-- Reads the count of `head` or `tail`. -/
def extent (isLines : Bool) (text : String) : Option Extent :=
  let (sign, digits) := match text.toList with
    | '-' :: rest => (some '-', String.ofList rest)
    | '+' :: rest => (some '+', String.ofList rest)
    | _ => (none, text)
  (count? digits).map fun count => { isLines, sign, count }

/-- The old form of the options, a count behind one hyphen, in the new one. -/
def modernised (args : List String) : List String :=
  match args with
  | first :: rest =>
    match first.toList with
    | '-' :: c :: more =>
      if c.isDigit then
        let digits := (c :: more).takeWhile Char.isDigit
        let letters := (c :: more).drop digits.length
        let unit := if letters.contains 'c' then "-c" else "-n"
        let others := letters.filter fun letter => letter == 'q' || letter == 'v'
        (others.map fun letter => String.ofList ['-', letter]) ++
          unit :: String.ofList digits :: rest
      else args
    | _ => args
  | [] => []

/-- The options of `head` and `tail`. -/
def extentTable : OptionTable :=
  { short := "n:c:qvzfFs:"
    long :=
      [("lines", .required, 'n'), ("bytes", .required, 'c'), ("quiet", .nothing, 'q'),
        ("silent", .nothing, 'q'), ("verbose", .nothing, 'v'), ("zero-terminated", .nothing, 'z'),
        ("follow", .optional, 'f'), ("retry", .nothing, 'F'), ("sleep-interval", .required, 's'),
        ("pid", .required, 's')] }

/-- Goes through files with a headline before each, if there are several. -/
def withHeadlines (given : Given) (run : Run) (use : Run → String → Run) : Run :=
  let names := if given.operands.isEmpty then ["-"] else given.operands
  let showsNames := given.has 'v' || (names.length > 1 && !given.has 'q')
  (names.foldl
    (fun ((run, isFirst) : Run × Bool) name =>
      if !run.goesOn then (run, isFirst)
      else
        let fault? := if name == "-" then none else
          match run.sourceOf name with
          | .error fault => some fault
          | .ok _ => none
        match fault? with
        | some .isADirectory =>
          let headline := if showsNames then
            (if isFirst then "" else "\n") ++ "==> " ++ name ++ " <==\n" else ""
          (fail (run.print headline) ("error reading '" ++ name ++ "': Is a directory"), false)
        | some fault =>
          (fail run ("cannot open '" ++ name ++ "' for reading: " ++ faultText fault), isFirst)
        | none =>
          let shownName := if name == "-" then "standard input" else name
          let headline := if showsNames then
            (if isFirst then "" else "\n") ++ "==> " ++ shownName ++ " <==\n" else ""
          (use (run.print headline) name, false))
    (run.ended 0, true)).1

/-- Reads what `head` and `tail` are asked to show. -/
def withExtent (args : List String) (run : Run) (use : Given → Extent → Run → Run) : Run :=
  withOptions extentTable 1 (modernised args) run fun given run =>
    match given.options.filter fun (letter, _) => letter == 'n' || letter == 'c' with
    | [] => use given {} run
    | options =>
      match options.findSome? fun (letter, value) =>
        if (extent true (value.getD "")).isNone then some (letter, value.getD "") else none with
      | some (letter, value) =>
        fail run ("invalid number of " ++ (if letter == 'n' then "lines" else "bytes") ++ ": '" ++
          value ++ "'")
      | none =>
        let (letter, value) := options.getLast?.getD ('n', some "10")
        use given ((extent (letter == 'n') (value.getD "")).getD {}) run

/-- Takes `count` lines off a text: the lines and what follows them. -/
def splitLines (stop : Char) : (count : Nat) → List Char → List Char × List Char
  | 0, rest => ([], rest)
  | count + 1, text =>
    let line := text.takeWhile (· != stop)
    match text.drop line.length with
    | [] => (line, [])
    | c :: rest =>
      let (more, rest) := splitLines stop count rest
      (line ++ c :: more, rest)

/-- Shows the beginning of files. -/
def head (args : List String) (run : Run) : Run :=
  withExtent args run fun given extent run =>
    let stop := if given.has 'z' then Char.ofNat 0 else '\n'
    let cut (text : List Char) : List Char × List Char :=
      if extent.sign == some '-' then
        if extent.isLines then
          let lines := recordsOf stop (String.ofList text)
          (splitLines stop (lines.length - extent.count) text |>.1, [])
        else (text.take (text.length - extent.count), [])
      else if extent.isLines then splitLines stop extent.count text
      else (text.take extent.count, text.drop extent.count)
    withHeadlines given run fun run name =>
      if name == "-" then
        let source := run.ahead 0
        let (taken, rest) := cut source.rest
        -- a pipe has been read further than is shown
        let rest := if source.isFile || source.isEndless then rest else []
        (run.leave 0 rest).print (String.ofList taken)
      else
        match run.sourceOf name with
        | .ok source => run.print (String.ofList (cut source.rest).1)
        | .error _ => run

/-- Shows the end of files. -/
def tail (args : List String) (run : Run) : Run :=
  let args := match args with
    | first :: rest =>
      match first.toList with
      | '+' :: c :: _ => if c.isDigit && rest.length ≤ 1 then "-n" :: first :: rest else args
      | _ => args
    | [] => []
  withExtent args run fun given extent run =>
    let stop := if given.has 'z' then Char.ofNat 0 else '\n'
    let cut (text : List Char) : List Char :=
      if extent.sign == some '+' then
        if extent.isLines then (splitLines stop (extent.count - 1) text).2
        else text.drop (extent.count - 1)
      else if extent.isLines then
        let lines := recordsOf stop (String.ofList text)
        (splitLines stop (lines.length - extent.count) text).2
      else text.drop (text.length - extent.count)
    let run := withHeadlines given run fun run name =>
      match contents run name with
      | (.ok text, run) => if run.goesOn then run.print (String.ofList (cut text.toList)) else run
      | (.error _, run) => run
    if run.goesOn && given.hasAny ['f', 'F'] && !given.operands.isEmpty then run.stopping else run

/-! ## Lines laid out anew -/

/-- Which lines `nl` numbers. -/
def isNumbered (style line : String) : Bool :=
  if style == "a" then true else if style == "n" then false else line != "\n" && line != ""

/-- Numbers lines. -/
def nl (args : List String) (run : Run) : Run :=
  let table : OptionTable :=
    { short := "b:d:f:h:i:l:n:ps:v:w:"
      long :=
        [("body-numbering", .required, 'b'), ("line-increment", .required, 'i'),
          ("number-format", .required, 'n'), ("number-separator", .required, 's'),
          ("starting-line-number", .required, 'v'), ("number-width", .required, 'w')] }
  withOptions table 1 args run fun given run =>
    let number (letter : Char) (default : Int) : Int :=
      ((given.value? letter).bind String.toInt?).getD default
    let width := (number 'w' 6).toNat
    let step := number 'i' 1
    let separator := (given.value? 's').getD "\t"
    let style := (given.value? 'b').getD "t"
    let format := (given.value? 'n').getD "rn"
    let (text, run) := gathered shown given.operands run
    let blank := String.ofList (List.replicate (width + separator.length) ' ')
    let (reversed, _) := (linesOf text).foldl
      (fun ((done, next) : List String × Int) line =>
        if isNumbered style line then
          let digits := toString next
          let shownNumber :=
            if format == "ln" then rightPadded width digits
            else if format == "rz" then
              String.ofList (List.replicate (width - digits.length) '0') ++ digits
            else leftPadded width digits
          ((shownNumber ++ separator ++ line) :: done, next + step)
        else ((blank ++ line) :: done, next))
      ([], number 'v' 1)
    run.print (String.join (reversed.reverse.map fun line =>
      if line.endsWith "\n" then line else line ++ "\n"))

/-- The column after a character, from the column before it. -/
def columnAfter (countsOctets : Bool) (column : Nat) (c : Char) : Nat :=
  if countsOctets then column + 1
  else if c == '\x08' then column - 1
  else if c == '\r' then 0
  else if c == '\t' then column + 8 - column % 8
  else column + 1

/-- Breaks a line into pieces. `reversed` is the piece that is being filled, up to `column`. `fuel` is
more than twice the number of characters. -/
def folded (width : Nat) (atBlanks countsOctets : Bool) (reversed : List Char) (column : Nat) :
    (fuel : Nat) → List Char → List (List Char)
  | 0, rest => [reversed.reverse ++ rest]
  | _, [] => [reversed.reverse]
  | fuel + 1, c :: rest =>
    let next := columnAfter countsOctets column c
    if next ≤ width || reversed.isEmpty then
      folded width atBlanks countsOctets (c :: reversed) next fuel rest
    else
      let kept := reversed.dropWhile fun c => c != ' ' && c != '\t'
      if atBlanks && !kept.isEmpty then
        let moved := (reversed.take (reversed.length - kept.length)).reverse
        let column := moved.foldl (columnAfter countsOctets) 0
        kept.reverse :: folded width atBlanks countsOctets moved.reverse column fuel (c :: rest)
      else reversed.reverse :: folded width atBlanks countsOctets [] 0 fuel (c :: rest)

/-- Breaks long lines. -/
def fold (args : List String) (run : Run) : Run :=
  let args := args.map fun arg =>
    match arg.toList with
    | '-' :: c :: rest => if c.isDigit then String.ofList ('-' :: 'w' :: c :: rest) else arg
    | _ => arg
  let table : OptionTable :=
    { short := "bsw:"
      long := [("bytes", .nothing, 'b'), ("spaces", .nothing, 's'), ("width", .required, 'w')] }
  withOptions table 1 args run fun given run =>
    let refuse (reason : String) : Run :=
      fail run ("invalid number of columns: '" ++ (given.value? 'w').getD "" ++ "'" ++ reason)
    match (given.value? 'w').getD "80" |>.toNat? with
    | none => refuse ""
    | some 0 => refuse ": Numerical result out of range"
    | some width =>
      forFiles shown
        (fun run _ text =>
          run.print (String.join ((linesOf text).map fun line =>
            let endsLine := line.endsWith "\n"
            let body := if endsLine then line.toList.dropLast else line.toList
            let pieces := folded width (given.has 's') (given.has 'b') [] 0 (2 * body.length + 2) body
            String.ofList (['\n'].intercalate pieces) ++ if endsLine then "\n" else "")))
        given.operands run

/-! ## Tabs -/

/-- The columns of tab stops: the ones given in order, or every so many columns. -/
inductive TabStops
  | every (width : Nat)
  | listed (columns : List Nat)
deriving DecidableEq, Repr

/-- The first stop after a column, if there is one. -/
def TabStops.next? : TabStops → Nat → Option Nat
  | .every width, column => some (column + width - column % width)
  | .listed columns, column => columns.find? (column < ·)

/-- Whether every number is larger than the one before. -/
def isRising : List Nat → Bool
  | a :: b :: rest => a < b && isRising (b :: rest)
  | _ => true

/-- Reads tab stops. -/
def tabStops (text : String) : Except String TabStops := do
  let pieces := (text.split fun c => c == ',' || c == ' ').toList.map (·.toString)
  let columns ← (pieces.filter (!·.isEmpty)).mapM fun piece =>
    match piece.toList.find? fun c => !c.isDigit with
    | some _ =>
      throw ("tab size contains invalid character(s): '" ++
        String.ofList (piece.toList.dropWhile Char.isDigit) ++ "'")
    | none => pure (piece.toNat?.getD 0)
  if columns.contains 0 then throw "tab size cannot be 0"
  else if !isRising columns then throw "tab sizes must be ascending"
  else
    match columns with
    | [] => pure (.every 8)
    | [width] => pure (.every width)
    | columns => pure (.listed columns)

/-- A text with its tabs replaced by blanks up to the next stop, only those before all other
characters of a line if `onlyFirst`. -/
def expanded (stops : TabStops) (onlyFirst : Bool) (text : List Char) : List Char :=
  (text.foldl
    (fun ((done, column, isOpen) : List Char × Nat × Bool) c =>
      if c == '\n' then (c :: done, 0, true)
      else if c == '\t' && isOpen then
        let count := ((stops.next? column).getD (column + 1)) - column
        (List.replicate count ' ' ++ done, column + count, isOpen)
      else if c == '\x08' then (c :: done, column - 1, isOpen && !onlyFirst)
      else (c :: done, column + 1, isOpen && (!onlyFirst || c == ' ')))
    ([], 0, true)).1.reverse

/-- Replaces tabs by blanks. -/
def expand (args : List String) (run : Run) : Run :=
  let table : OptionTable :=
    { short := "it:", long := [("initial", .nothing, 'i'), ("tabs", .required, 't')] }
  withOptions table 1 args run fun given run =>
    match tabStops ((given.value? 't').getD "8") with
    | .error text => fail run text
    | .ok stops =>
      forFiles shown
        (fun run _ text => run.print (String.ofList (expanded stops (given.has 'i') text.toList)))
        given.operands run

/-- The shortest run of tabs and blanks from one column to another, the first of which a single blank
has reached if `isSingle`. `fuel` is more than the number of columns. -/
def blanksBetween (stops : TabStops) (start stop : Nat) (isSingle : Bool) : (fuel : Nat) → List Char
  | 0 => []
  | fuel + 1 =>
    if start ≥ stop then []
    else
      match stops.next? start with
      | some next =>
        if next ≤ stop && !isSingle then '\t' :: blanksBetween stops next stop false fuel
        else List.replicate (stop - start) ' '
      | none => List.replicate (stop - start) ' '

/-- A line with runs of blanks shortened by tabs, only the first of which counts if it stands at the
front and `onlyFirst`. `blanks` are those just met, which began at column `start`. -/
def unexpandedLine (stops : TabStops) (onlyFirst : Bool) (start column : Nat) (blanks : List Char) :
    List Char → List Char
  | c :: rest =>
    if c == ' ' then unexpandedLine stops onlyFirst start (column + 1) (c :: blanks) rest
    else if c == '\t' then
      unexpandedLine stops onlyFirst start ((stops.next? column).getD (column + 1)) (c :: blanks) rest
    else
      let lead := blanksBetween stops start column (blanks == [' ']) (column + 1)
      if onlyFirst then lead ++ c :: rest
      else lead ++ c :: unexpandedLine stops onlyFirst (column + 1) (column + 1) [] rest
  | [] => blanksBetween stops start column (blanks == [' ']) (column + 1)

/-- Replaces blanks by tabs. -/
def unexpand (args : List String) (run : Run) : Run :=
  let table : OptionTable :=
    { short := "at:"
      long := [("all", .nothing, 'a'), ("first-only", .nothing, 'f'), ("tabs", .required, 't')] }
  withOptions table 1 args run fun given run =>
    match tabStops ((given.value? 't').getD "8") with
    | .error text => fail run text
    | .ok stops =>
      let onlyFirst := given.has 'f' || !given.hasAny ['a', 't']
      forFiles shown
        (fun run _ text =>
          run.print (String.join ((linesOf text).map fun line =>
            let body := line.toList.filter (· != '\n')
            String.ofList (unexpandedLine stops onlyFirst 0 0 [] body) ++
              if line.endsWith "\n" then "\n" else "")))
        given.operands run

/-- Repeats a line for as long as anybody reads. -/
def yes (args : List String) (run : Run) : Run :=
  let line := " ".intercalate (if args.isEmpty then ["y"] else args) ++ "\n"
  let run := run.print (String.join (List.replicate (Run.endlessLength / line.length + 1) line))
  if run.unwritten.isSome then run else run.exhausting

/-- Copies the standard input to the standard output and to files. -/
def tee (args : List String) (run : Run) : Run :=
  let table : OptionTable :=
    { short := "aip", long := [("append", .nothing, 'a'), ("ignore-interrupts", .nothing, 'i')] }
  withOptions table 1 args run fun given run =>
    let (read, run) := contents run "-"
    let text := read.toOption.getD ""
    let run := (run.print text).ended 0
    let run := given.operands.foldl
      (fun run name =>
        match run.locate name with
        | .ok path =>
          match System.descriptor? path with
          | some descriptor => run.write descriptor text
          | none =>
            match run.writeFile name text (given.has 'a') with
            | .ok run => run
            | .error fault => fail run (shown name ++ ": " ++ faultText fault)
        | .error fault => fail run (shown name ++ ": " ++ faultText fault))
      run
    match read with
    | .error fault => fail run ("read error: " ++ faultText fault)
    | .ok _ => run

end RunMeter.Shell.Tool
