import RunMeter.Shell.Pattern
import RunMeter.Shell.Print
import RunMeter.Shell.Tool.Clock
import RunMeter.Shell.Tool.Order
import RunMeter.Shell.Tool.Place

/-!
# Tools that list files

`ls` shows what directories hold, `stat` what is known about single files. All files belong to the
same user, and all were changed when the clock of the machine started, in the order in which the
machine keeps them.
-/

set_option autoImplicit false

namespace RunMeter.Shell.Tool

/-! ## Facts about files -/

/-- The letter for the kind of a file. -/
def kindLetter : FileNode → Char
  | .file _ _ => '-'
  | .directory _ => 'd'
  | .link _ => 'l'
  | .device _ => 'c'

/-- The kind of a file in words. -/
def kindText : FileNode → String
  | .file content _ => if content.isEmpty then "regular empty file" else "regular file"
  | .directory _ => "directory"
  | .link _ => "symbolic link"
  | .device _ => "character special file"

/-- The size of a file. -/
def sizeOf : FileNode → Nat
  | .file content _ => content.size
  | .directory _ => 4096
  | .link target => target.utf8ByteSize
  | .device _ => 0

/-- How many blocks of 1024 octets a file takes. -/
def blocksOf : FileNode → Nat
  | .file content _ => (content.size + 4095) / 4096 * 4
  | .directory _ => 4
  | _ => 0

/-- What lies directly in a directory: the last steps and what they lead to. -/
def members (files : Files) (path : Path) : List (String × FileNode) :=
  files.entries.filterMap fun (p, node) =>
    if p.length = path.length + 1 && Files.isBelow path p then (p.getLast?).map (·, node) else none

/-- How many names lead to a file. -/
def linkCount (files : Files) (path : Path) (node : FileNode) : Nat :=
  if node.isDirectory then
    2 + ((members files path).filter fun (_, member) => member.isDirectory).length
  else 1

/-- A size written with a letter for its unit. -/
def shortSize (n : Nat) : String :=
  let units := ["", "K", "M", "G", "T"]
  let power := (List.range 4).foldl (fun power i => if n ≥ 1024 ^ (i + 1) then i + 1 else power) 0
  if power = 0 then toString n
  else
    let scale := 1024 ^ power
    let tenths := (n * 10 + scale - 1) / scale
    if tenths < 100 then toString (tenths / 10) ++ "." ++ toString (tenths % 10) ++ units.getD power ""
    else
      let whole := (n + scale - 1) / scale
      if whole ≥ 1024 && power < 4 then "1.0" ++ units.getD (power + 1) ""
      else toString whole ++ units.getD power ""

/-! ## `ls` -/

/-- The options of `ls`. -/
def listTable : OptionTable :=
  { short := "1AaBbCcdDfFgGhHiI:kLlmNnopQqRrSsT:tUuvw:XxZ"
    long :=
      [("all", .nothing, 'a'), ("almost-all", .nothing, 'A'), ("directory", .nothing, 'd'),
        ("recursive", .nothing, 'R'), ("reverse", .nothing, 'r'), ("classify", .optional, 'F'),
        ("file-type", .nothing, 'p'), ("human-readable", .nothing, 'h'), ("size", .nothing, 's'),
        ("color", .optional, '2'), ("inode", .nothing, 'i'), ("ignore", .required, 'I'),
        ("group-directories-first", .nothing, '3'), ("sort", .required, '4'),
        ("no-group", .nothing, 'G'), ("numeric-uid-gid", .nothing, 'n'), ("quote-name", .nothing, 'Q'),
        ("literal", .nothing, 'N'), ("dereference", .nothing, 'L'), ("full-time", .nothing, '5'),
        ("time-style", .required, '6'), ("format", .required, '7'), ("ignore-backups", .nothing, 'B'),
        ("escape", .nothing, 'b'), ("hide", .required, 'I'), ("width", .required, 'w'),
        ("si", .nothing, 'h'), ("zero", .nothing, '8')] }

/-- Something that is listed: the name under which it is shown, where it lies and what it is. -/
structure Listed where
  name : String
  path : Path
  node : FileNode

/-- How a listing is ordered. -/
def listedBefore (files : Files) (given : Given) (a b : Listed) : Bool :=
  let byName : Bool := a.name ≤ b.name
  let age (item : Listed) : Nat := ((files.entries.map (·.1)).idxOf? item.path).getD 0
  let key := match given.value? '4', given.last? ['S', 't', 'X', 'v', 'U', 'f'] with
    | some "size", _ => some 'S'
    | some "time", _ => some 't'
    | some "extension", _ => some 'X'
    | some "version", _ => some 'v'
    | some "none", _ => some 'U'
    | _, letter => letter
  match key with
  | some 'S' => sizeOf b.node < sizeOf a.node || (sizeOf a.node = sizeOf b.node && byName)
  | some 't' => age b ≤ age a
  | some 'X' =>
    let ending (name : String) : String :=
      if name.contains '.' then ((name.splitOn ".").getLast?).getD "" else ""
    ending a.name < ending b.name || (ending a.name == ending b.name && byName)
  | some 'v' =>
    match compareNames a.name.toList b.name.toList with
    | .lt => true
    | .eq => byName
    | .gt => false
  | some _ => age a ≤ age b
  | none => byName

/-- Puts what is listed in order. -/
def listedInOrder (files : Files) (given : Given) (items : List Listed) : List Listed :=
  let sorted := items.mergeSort (listedBefore files given)
  let sorted := if given.has 'r' then sorted.reverse else sorted
  if given.has '3' then
    sorted.filter (·.node.isDirectory) ++ sorted.filter fun item => !item.node.isDirectory
  else sorted

/-- The mark behind a name that tells its kind. -/
def kindMark (given : Given) (node : FileNode) : String :=
  match node with
  | .directory _ => if given.hasAny ['F', 'p'] then "/" else ""
  | .link _ => if given.has 'F' then "@" else ""
  | .file _ permissions => if given.has 'F' && permissions &&& 0o111 != 0 then "*" else ""
  | .device _ => ""

/-- A name as `ls` shows it. -/
def listedName (given : Given) (name : String) : String :=
  if given.has 'Q' then
    "\"" ++ String.join (name.toList.map fun c =>
      if c == '"' || c == '\\' then String.ofList ['\\', c]
      else if c == '\n' then "\\n" else String.ofList [c]) ++ "\""
  else if given.has 'b' then
    String.join (name.toList.map fun c =>
      if c == ' ' || c == '\\' then String.ofList ['\\', c]
      else if c == '\n' then "\\n" else String.ofList [c])
  else if given.has 'q' then name.map fun c => if c.toNat < 32 || c.toNat ≥ 127 then '?' else c
  else name

/-- The columns of a long listing before the name. -/
def longColumns (files : Files) (given : Given) (moment : Moment) (item : Listed) : List String :=
  let owner := if given.has 'n' then "0" else "root"
  let size := sizeOf item.node
  let time :=
    if given.has '5' || given.value? '6' == some "full-iso" then "%Y-%m-%d %H:%M:%S.%N %z"
    else if given.value? '6' == some "long-iso" then "%Y-%m-%d %H:%M"
    else if given.value? '6' == some "iso" then "%m-%d %H:%M"
    else
      match (given.value? '6').map String.toList with
      | some ('+' :: format) => String.ofList format
      | _ => "%b %e %H:%M"
  [String.ofList [kindLetter item.node] ++ modeText (modeOf item.node),
    toString (linkCount files item.path item.node)] ++
    (if given.has 'g' then [] else [owner]) ++
    (if given.hasAny ['G', 'o'] then [] else [owner]) ++
    [if given.has 'h' then shortSize size else toString size, moment.render time]

/-- The lines of a long listing. -/
def longLines (files : Files) (given : Given) (moment : Moment) (items : List Listed) :
    List String :=
  let rows := items.map fun item => (item, longColumns files given moment item)
  let width (i : Nat) : Nat := (rows.map fun (_, row) => (row.getD i "").length).foldl max 0
  rows.map fun (item, row) =>
    let last := row.length - 1
    let cells := row.zipIdx.map fun (cell, i) =>
      if i = 1 || i + 1 = last then leftPadded (width i) cell
      else if i = last then cell else rightPadded (width i) cell
    let target := match item.node with
      | .link target => " -> " ++ Text.octets target
      | node => kindMark given node
    " ".intercalate cells ++ " " ++ listedName given item.name ++ target

/-- How many lines and columns names are spread over, and the widths of the columns. `across` says
whether the order goes along the lines. -/
def spread (across : Bool) (width : Nat) (lengths : List Nat) : Nat × List Nat :=
  let count := lengths.length
  let attempt (columns : Nat) : Nat × List Nat :=
    let rows := (count + columns - 1) / columns
    let widths := (List.range columns).map fun column =>
      let own := lengths.zipIdx.filterMap fun (length, i) =>
        if (if across then i % columns else i / rows) = column then some length else none
      own.foldl max 0 + if column + 1 < columns then 2 else 0
    (rows, widths)
  let fits (columns : Nat) : Bool := (attempt columns).2.foldl (· + ·) 0 ≤ width
  match ((List.range (min count (width / 3))).map (· + 1)).reverse.find? fits with
  | some columns => attempt columns
  | none => attempt 1

/-- Tabs and blanks that lead from one column to another. `fuel` is more than their distance. -/
def gap (stop : Nat) : (fuel : Nat) → Nat → List Char
  | 0, _ => []
  | fuel + 1, start =>
    if start ≥ stop then []
    else if stop / 8 > (start + 1) / 8 then '\t' :: gap stop fuel (start + 8 - start % 8)
    else ' ' :: gap stop fuel (start + 1)

/-- A line of cells that begin at given columns. -/
def cellLine (widths : List Nat) (cells : List String) : String :=
  (cells.foldl
    (fun ((text, column, start, widths) : String × Nat × Nat × List Nat) cell =>
      let text := text ++ String.ofList (gap start (start + 1) column) ++ cell
      (text, start + cell.length, start + widths.headD 0, widths.drop 1))
    ("", 0, 0, widths)).1

/-- The lines of a listing. -/
def listedLines (files : Files) (given : Given) (moment : Moment) (items : List Listed) : List String :=
  let format := match given.value? '7', given.last? ['l', '1', 'C', 'x', 'm', 'n', 'g', 'o'] with
    | some "long", _ | some "verbose", _ => some 'l'
    | some "commas", _ => some 'm'
    | some "vertical", _ => some 'C'
    | some "across", _ | some "horizontal", _ => some 'x'
    | some _, _ => some '1'
    | none, letter => letter
  let lead (item : Listed) : String :=
    (if given.has 'i' then "1 " else "") ++
      if given.has 's' then leftPadded ((items.map fun item =>
        (toString (blocksOf item.node)).length).foldl max 0) (toString (blocksOf item.node)) ++ " "
      else ""
  let names := items.map fun item => lead item ++ listedName given item.name ++ kindMark given item.node
  match format with
  | some 'm' => if names.isEmpty then [] else [", ".intercalate names]
  | some '1' | none => names
  | some letter =>
    if letter == 'C' || letter == 'x' then
      let width := ((given.value? 'w').bind String.toNat?).getD 80
      let across := letter == 'x'
      let (rows, widths) := spread across width (names.map String.length)
      (List.range rows).map fun row =>
        let cells := (List.range widths.length).filterMap fun column =>
          names[if across then row * widths.length + column else column * rows + row]?
        cellLine widths cells
    else
      ((items.zip (longLines files given moment items))).map fun (item, line) => lead item ++ line

/-- What a directory shows of itself. -/
def shownMembers (files : Files) (given : Given) (path : Path) : List Listed :=
  let fits (glob name : String) : Bool :=
    (Pattern.ofMarks (glob.toList.map fun c => (c, false))).accepts name.toList
  let own := (members files path).filterMap fun (step, node) =>
    let name := Text.octets step
    let isHidden := name.startsWith "." && !given.hasAny ['a', 'A', 'f']
    if isHidden || ((given.values 'I').any fun glob => fits glob name) ||
        (given.has 'B' && name.endsWith "~") then none
    else some { name, path := path ++ [step], node }
  let dots : List Listed := if given.hasAny ['a', 'f'] then
      [{ name := ".", path, node := .plainDirectory },
        { name := "..", path := path.above, node := .plainDirectory }]
    else []
  listedInOrder files given (dots ++ own)

/-- The text for one directory, and those below it if all are to be shown. `fuel` is more than the
number of levels. -/
def directoryListing (files : Files) (given : Given) (moment : Moment) (hasHeadline : Bool) :
    (fuel : Nat) → (name : String) → Path → List String
  | 0, _, _ => []
  | fuel + 1, name, path =>
    let items := shownMembers files given path
    let isLong := given.hasAny ['l', 'n', 'g', 'o', 's', '5'] && !given.has '7' || given.value? '7' == some "long"
    let blocks := (items.map fun item => blocksOf item.node).foldl (· + ·) 0
    let total := if isLong then
        ["total " ++ if given.has 'h' then shortSize (blocks * 1024) else toString blocks]
      else []
    let lines := total ++ listedLines files given moment items
    let text := (if hasHeadline then name ++ ":\n" else "") ++ String.join (lines.map (· ++ "\n"))
    let lead := if name.endsWith "/" then name else name ++ "/"
    let nested := if given.has 'R' then
        items.filter fun item => item.node.isDirectory && item.name != "." && item.name != ".."
      else []
    text :: nested.flatMap fun item =>
      directoryListing files given moment true fuel (lead ++ item.name) item.path

/-- Shows what directories hold. -/
def ls (args : List String) (run : Run) : Run :=
  withOptions listTable 2 args run fun given run =>
    let given := if given.has '5' then { given with options := given.options ++ [('l', none)] } else given
    let files := run.machine.files
    let moment := Moment.of epoch 0 0
    let isLong := given.hasAny ['l', 'n', 'g', 'o']
    let names := if given.operands.isEmpty then ["."] else given.operands
    let (reversed, run) := names.foldl
      (fun ((found, run) : List Listed × Run) name =>
        -- a link to a directory stands for the directory unless it is shown itself
        let followed? := run.locate name >>= fun path => (run.nodeAt path).map fun node => (path, node)
        let itself? := run.locateItself name >>= fun path =>
          (run.nodeAt path).map fun node => (path, node)
        let showsLinks := !given.hasAny ['L', 'H'] && (isLong || given.hasAny ['d', 'F'])
        let found? := if showsLinks && !name.endsWith "/" then itself? else
          match followed?, itself? with
          | .ok found, _ => .ok found
          | .error fault, found => if given.has 'L' then .error fault else found
        match found? with
        | .ok (path, node) => ({ name, path, node } :: found, run)
        | .error fault =>
          (found, failWith 2 run ("cannot access '" ++ name ++ "': " ++ faultText fault)))
      ([], run.ended 0)
    let items := listedInOrder files given reversed.reverse
    let isShownWhole (item : Listed) : Bool := item.node.isDirectory && !given.has 'd'
    let directories := items.filter isShownWhole
    let others := items.filter fun item => !isShownWhole item
    let loose := String.join ((listedLines files given moment others).map (· ++ "\n"))
    let hasHeadline := names.length > 1 || given.has 'R'
    let texts := directories.flatMap fun item =>
      directoryListing files given moment hasHeadline (files.entries.length + 2) item.name item.path
    run.print ("\n".intercalate ((if others.isEmpty then [] else [loose]) ++ texts))

/-! ## `stat` -/

/-- One directive of a format for `stat`. -/
def statField (files : Files) (moment : Moment) (item : Listed) (c : Char) : String :=
  let mode := modeOf item.node
  let kind := match item.node with
    | .file _ _ => 0o100000
    | .directory _ => 0o040000
    | .link _ => 0o120000
    | .device _ => 0o020000
  match c with
  | 'n' => item.name
  | 'N' =>
    "'" ++ item.name ++ "'" ++ match item.node with
      | .link target => " -> '" ++ Text.octets target ++ "'"
      | _ => ""
  | 's' => toString (sizeOf item.node)
  | 'F' => kindText item.node
  | 'a' => String.ofList (Nat.toDigits 8 mode)
  | 'A' => String.ofList [kindLetter item.node] ++ modeText mode
  | 'f' => String.ofList (Nat.toDigits 16 (kind + mode))
  | 'U' | 'G' => "root"
  | 'u' | 'g' | 't' | 'T' => "0"
  | 'h' => toString (linkCount files item.path item.node)
  | 'b' => toString (blocksOf item.node * 2)
  | 'B' => "512"
  | 'o' => "4096"
  | 'i' => toString (((files.entries.map (·.1)).idxOf? item.path).getD 0 + 2)
  | 'd' => "1"
  | 'D' => "1"
  | 'm' => "/"
  | 'x' | 'y' | 'z' | 'w' => moment.render "%Y-%m-%d %H:%M:%S.%N %z"
  | 'X' | 'Y' | 'Z' | 'W' => toString moment.seconds
  | 'C' | _ => "?"

/-- A format for `stat` with its directives replaced; escapes are if `escapes`. -/
def statText (files : Files) (moment : Moment) (item : Listed) (escapes : Bool) :
    (fuel : Nat) → List Char → String
  | 0, _ => ""
  | _, [] => ""
  | fuel + 1, '%' :: '%' :: rest => "%" ++ statText files moment item escapes fuel rest
  | fuel + 1, '%' :: rest =>
    let flags := rest.takeWhile fun c => "-0 +#'".contains c
    let digits := (rest.drop flags.length).takeWhile Char.isDigit
    match rest.drop (flags.length + digits.length) with
    | [] => "%"
    | c :: more =>
      let text := statField files moment item c
      let width := Decimal.value digits
      let text := if flags.contains '-' then rightPadded width text
        else if flags.contains '0' && text.all Char.isDigit then
          String.ofList (List.replicate (width - text.length) '0') ++ text
        else leftPadded width text
      text ++ statText files moment item escapes fuel more
  | fuel + 1, '\\' :: rest =>
    if escapes then
      let (c, more) := Print.escape .tool rest
      String.ofList [c] ++ statText files moment item escapes fuel more
    else "\\" ++ statText files moment item escapes fuel rest
  | fuel + 1, c :: rest => String.ofList [c] ++ statText files moment item escapes fuel rest

/-- The format that `stat` uses if it is given none. -/
def statFormat (node : FileNode) : String :=
  "  File: %n" ++
    (match node with
      | .link target => " -> " ++ (Text.octets target).replace "%" "%%"
      | _ => "") ++
    "\n  Size: %-10s\tBlocks: %-10b IO Block: %-6o %F\n" ++
    "Device: 0,1\tInode: %-11i Links: %-5h" ++
    (match node with
      | .device _ => " Device type: 1,3\n"
      | _ => "\n") ++
    "Access: (0%a/%A)  Uid: (    0/    root)   Gid: (    0/    root)\n" ++
    "Access: %x\nModify: %y\nChange: %z\n Birth: %w\n"

/-- Shows what is known about files. -/
def stat (args : List String) (run : Run) : Run :=
  let table : OptionTable :=
    { short := "c:fLt"
      long := [("format", .required, 'c'), ("printf", .required, 'p'), ("dereference", .nothing, 'L'),
        ("file-system", .nothing, 'f'), ("terse", .nothing, 't')] }
  withOptions table 1 args run fun given run =>
    if given.operands.isEmpty then misuse run "missing operand"
    else
      let moment := Moment.of epoch 0 0
      given.operands.foldl
        (fun run name =>
          let path? := if given.has 'L' then run.locate name else run.locateItself name
          match path? >>= fun path => (run.nodeAt path).map fun node => (path, node) with
          | .error fault => fail run ("cannot statx '" ++ name ++ "': " ++ faultText fault)
          | .ok (path, node) =>
            let item : Listed := { name, path, node }
            let files := run.machine.files
            match given.value? 'p', given.value? 'c' with
            | some format, _ => run.print (statText files moment item true (format.length + 1) format.toList)
            | none, some format =>
              run.print (statText files moment item false (format.length + 1) format.toList ++ "\n")
            | none, none =>
              let format := if given.has 't' then
                  "%n %s %b %f %u %g %D %i %h %t %T %X %Y %Z %W %o\n"
                else statFormat node
              run.print (statText files moment item false (format.length + 1) format.toList))
        (run.ended 0)

end RunMeter.Shell.Tool
