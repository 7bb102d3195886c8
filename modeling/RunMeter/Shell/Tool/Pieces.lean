import RunMeter.Shell.Tool.Place

/-!
# Pieces of files

Tools that copy files in blocks, divide them, shuffle their lines or put words in order, and one that
makes files with names of its own.
-/

set_option autoImplicit false

namespace RunMeter.Shell.Tool

/-! ## Blocks -/

/-- The operands of `dd`: their names and values. -/
abbrev BlockOptions := List (String × String)

/-- The value of an operand. The last one counts. -/
def blockOption? (options : BlockOptions) (name : String) : Option String :=
  options.reverse.lookup name

/-- A count of octets with the letters that `dd` knows, or a product of such counts. -/
def blockCount? (text : String) : Option Nat :=
  let one (piece : String) : Option Nat :=
    match piece.toList.reverse with
    | 'c' :: digits => (String.ofList digits.reverse).toNat?
    | 'w' :: digits => ((String.ofList digits.reverse).toNat?).map (2 * ·)
    | 'B' :: digits =>
      match (String.ofList digits.reverse).toNat? with
      | some n => some n
      | none => count? piece
    | _ => count? piece
  (text.splitOn "x").foldl (fun n piece => n.bind fun n => (one piece).map (n * ·)) (some 1)

/-- Octets in pairs, the two of each exchanged. -/
def swapped : List Char → List Char
  | a :: b :: rest => b :: a :: swapped rest
  | rest => rest

/-- How many blocks of a size octets fill: whole ones and a broken one. -/
def blockTally (size count : Nat) : String :=
  toString (count / size) ++ "+" ++ (if count % size = 0 then "0" else "1")

/-- Copies blocks. -/
def dd (args : List String) (run : Run) : Run :=
  let known := ["bs", "cbs", "conv", "count", "ibs", "if", "iflag", "obs", "of", "oflag", "seek", "skip",
    "status", "iseek", "oseek"]
  let pairs := args.map fun arg =>
    match arg.splitOn "=" with
    | name :: value :: rest => (arg, name, some ("=".intercalate (value :: rest)))
    | _ => (arg, arg, none)
  match pairs.find? fun (_, name, value) => value.isNone || !known.contains name with
  | some (arg, _, _) => misuse run ("unrecognized operand " ++ quoted arg)
  | none =>
    let options : BlockOptions := pairs.filterMap fun (_, name, value) => value.map (name, ·)
    let sizes := ["bs", "ibs", "obs", "count", "skip", "seek", "iseek", "oseek", "cbs"]
    let conversions := ((blockOption? options "conv").map (·.splitOn ",")).getD []
    let knownConversions := ["ucase", "lcase", "swab", "notrunc", "sync", "noerror", "fsync",
      "fdatasync", "excl", "nocreat", "sparse", "block", "unblock", "ascii", "ebcdic", "ibm"]
    let status := (blockOption? options "status").getD ""
    let badSize := options.find? fun (name, value) =>
      sizes.contains name && (blockCount? value).all fun n =>
        n = 0 && ["bs", "ibs", "obs", "cbs"].contains name
    match badSize, conversions.find? fun name => !knownConversions.contains name with
    | some (_, value), _ => fail run ("invalid number: " ++ quoted value)
    | none, some name => misuse run ("invalid conversion: " ++ quoted name)
    | none, none =>
      if !(["", "none", "noxfer", "progress"].contains status) then
        misuse run ("invalid status level: " ++ quoted status)
      else
        let number (name : String) : Option Nat := (blockOption? options name).bind blockCount?
        let unit := number "bs"
        let inUnit := (unit <|> number "ibs").getD 512
        let outUnit := (unit <|> number "obs").getD 512
        let skipped := (((number "skip") <|> number "iseek").getD 0) * inUnit
        let sought := (((number "seek") <|> number "oseek").getD 0) * outUnit
        let target := blockOption? options "of"
        let source := blockOption? options "if"
        let run := run.ended 0
        let read : Except String (List Char) × Run := match source with
          | none =>
            match run.readFault? 0 with
            | some fault =>
              (.error ("error reading 'standard input': " ++ faultText fault), run)
            | none =>
              let ahead := (run.ahead 0).rest
              let wanted := match number "count" with
                | some count => (ahead.drop skipped).take (count * inUnit)
                | none => ahead.drop skipped
              (.ok wanted, run.leave 0 (ahead.drop (skipped + wanted.length)))
          | some name =>
            match run.sourceOf name with
            | .error .isADirectory =>
              let run := fail run ("error reading " ++ quoted name ++ ": " ++ faultText .isADirectory)
              (.ok [], run)
            | .error fault =>
              (.error ("failed to open " ++ quoted name ++ ": " ++ faultText fault), run)
            | .ok source =>
              let ahead := source.rest.drop skipped
              match number "count" with
              | some count => (.ok (ahead.take (count * inUnit)), run)
              | none => (.ok ahead, if source.isEndless then { run with control := .exhausted } else run)
        match read with
        | (.error text, run) => fail run text
        | (.ok octets, run) =>
          -- a status is left already if the input could not be read
          let converted := if conversions.contains "ucase" then octets.map Char.toUpper
            else if conversions.contains "lcase" then octets.map Char.toLower
            else octets
          let converted := if conversions.contains "swab" then swapped converted else converted
          let text := String.ofList converted
          let written : Except FileFault Run := match target with
            | none => .ok (run.print text)
            | some name =>
              let before := match run.locate name with
                | .ok path => (((run.machine.files.readAt path).toOption).map fun content =>
                    (Text.octetsOfBytes content).toList).getD []
                | .error _ => []
              let lead := before.take sought
              let lead := lead ++ List.replicate (sought - lead.length) (Char.ofNat 0)
              let rest := if conversions.contains "notrunc" then before.drop (sought + converted.length)
                else []
              run.writeFile name (String.ofList (lead ++ converted ++ rest)) false
          match target, written with
          | some name, .error fault => fail run ("failed to open " ++ quoted name ++ ": " ++ faultText fault)
          | _, .error fault => fail run (faultText fault)
          | _, .ok run =>
            let count := octets.length
            let tally := blockTally inUnit count ++ " records in\n" ++ blockTally outUnit count ++
              " records out\n"
            let plural := if count = 1 then " byte" else " bytes"
            let run := if status == "none" then run else run.write 2 tally
            let run := if status == "none" || status == "noxfer" then run
              else run.write 2 (toString count ++ plural ++ " copied, 0.001 s, " ++
                toString count ++ ".0 kB/s\n")
            run

/-! ## Division -/

/-- The ending of the name of a piece. -/
def pieceSuffix (base : Nat) (length place : Nat) : String :=
  String.ofList ((List.range length).map fun i =>
    let digit := place / base ^ (length - 1 - i) % base
    if base = 26 then Char.ofNat (97 + digit) else Nat.digitChar digit)

/-- Lines put together as long as no more octets than a limit come together. -/
def packed (limit : Nat) : (held : String) → List String → List String
  | held, [] => if held.isEmpty then [] else [held]
  | held, line :: rest =>
    if held.length + line.length ≤ limit then packed limit (held ++ line) rest
    else if held.isEmpty then line :: packed limit "" rest
    else held :: packed limit line rest

/-- Divides a list into so many pieces of a length. -/
def divided {α : Type} (length : Nat) (list : List α) : List (List α) :=
  (List.range ((list.length + length - 1) / length)).map fun i => (list.drop (i * length)).take length

/-- The pieces of a text into which `split` divides it. -/
def splitPieces (given : Given) (text : String) : Except String (List String) :=
  let positive (what value : String) : Except String Nat :=
    match count? value with
    | some 0 | none => .error ("invalid number of " ++ what ++ ": " ++ quoted value)
    | some n => .ok n
  let characters := text.toList
  match given.last? ['l', 'b', 'C', 'n'] with
  | some 'b' => do
    let size ← positive "bytes" ((given.value? 'b').getD "")
    .ok ((divided size characters).map String.ofList)
  | some 'C' => do
    let size ← positive "bytes" ((given.value? 'C').getD "")
    .ok (packed size "" (linesOf text))
  | some 'n' =>
    let value := (given.value? 'n').getD ""
    let byLines := value.startsWith "l/"
    let digits := if byLines then (value.drop 2).toString else value
    match digits.toNat? with
    | none | some 0 => .error ("invalid number of chunks: " ++ quoted digits)
    | some count =>
      let size := characters.length
      let edge (i : Nat) : Nat := i * (size / count) + min i (size % count)
      if byLines then
        -- a line belongs to the piece in which it begins
        let starts := (linesOf text).foldl
          (fun ((lines, place) : List (Nat × String) × Nat) line =>
            ((place, line) :: lines, place + line.length))
          ([], 0)
        let lines := starts.1.reverse
        .ok ((List.range count).map fun i =>
          String.join (lines.filterMap fun (place, line) =>
            if edge i ≤ place && place < edge (i + 1) then some line else none))
      else
        .ok ((List.range count).map fun i =>
          String.ofList ((characters.drop (edge i)).take (edge (i + 1) - edge i)))
  | _ => do
    let lines ← positive "lines" ((given.value? 'l').getD "1000")
    .ok ((divided lines (linesOf text)).map String.join)

/-- Divides a file into pieces, each of which becomes a file. -/
def split (args : List String) (run : Run) : Run :=
  let table : OptionTable :=
    { short := "a:b:C:del:n:t:ux"
      long :=
        [("suffix-length", .required, 'a'), ("bytes", .required, 'b'), ("line-bytes", .required, 'C'),
          ("numeric-suffixes", .optional, 'd'), ("hex-suffixes", .optional, 'x'), ("lines", .required, 'l'),
          ("number", .required, 'n'), ("elide-empty-files", .nothing, 'e'),
          ("additional-suffix", .required, '1'), ("verbose", .nothing, '2')] }
  withOptions table 1 args run fun given run =>
    let length := (given.value? 'a').getD "2"
    match given.operands, length.toNat? with
    | _ :: _ :: operand :: _, _ => extraOperand run operand
    | _, none => fail run ("invalid suffix length: " ++ quoted length)
    | operands, some length =>
      let length := if length = 0 then 2 else length
      let name := operands.headD "-"
      let lead := operands.getD 1 "x"
      match splitPieces given "" with
      | .error text => fail run text
      | .ok _ =>
        match contents run name with
        | (.error fault, run) =>
          fail run ("cannot open " ++ quoted name ++ " for reading: " ++ faultText fault)
        | (.ok text, run) =>
          let pieces := (splitPieces given text).toOption.getD []
          let pieces := if given.has 'e' then pieces.filter fun piece => !piece.isEmpty else pieces
          let (base, letter) := match given.last? ['d', 'x'] with
            | some 'd' => (10, 'd')
            | some _ => (16, 'x')
            | none => (26, ' ')
          let first := ((given.value? letter).bind String.toNat?).getD 0
          pieces.zipIdx.foldl
            (fun run (piece, i) =>
              if run.process.status != 0 then run
              else if base ^ length ≤ first + i then fail run "output file suffixes exhausted"
              else
                let target := lead ++ pieceSuffix base length (first + i) ++ (given.value? '1').getD ""
                let run := if given.has '2' then run.print ("creating file " ++ quoted target ++ "\n")
                  else run
                match run.writeFile target piece false with
                | .ok run => run
                | .error fault => fail run (shown target ++ ": " ++ faultText fault))
            (run.ended 0)

/-! ## Order -/

/-- Puts lines into an order without any rule to speak of. -/
def shuffled (lines : List String) : List String :=
  let keys := (Run.scattered lines.length (lines.length + 7)).map Char.toNat
  ((lines.zip keys).mergeSort fun a b => a.2 ≤ b.2).map (·.1)

/-- Shuffles lines. -/
def shuf (args : List String) (run : Run) : Run :=
  let table : OptionTable :=
    { short := "ei:n:o:rz"
      long :=
        [("echo", .nothing, 'e'), ("input-range", .required, 'i'), ("head-count", .required, 'n'),
          ("output", .required, 'o'), ("repeat", .nothing, 'r'), ("zero-terminated", .nothing, 'z'),
          ("random-source", .required, '1')] }
  withOptions table 1 args run fun given run =>
    let stop := if given.has 'z' then '\x00' else '\n'
    let range (text : String) : Option (List String) :=
      match text.splitOn "-" with
      | [low, high] => do
        let low ← low.toNat?
        let high ← high.toNat?
        if low ≤ high + 1 then some ((List.range (high + 1 - low)).map fun i => toString (low + i))
        else none
      | _ => none
    match (given.value? 'n').bind (fun text => if text.toNat?.isNone then some text else none) with
    | some text => fail run ("invalid line count: " ++ quoted text)
    | none =>
      let found : Except String (List String) × Run :=
        match given.value? 'i', given.has 'e', given.operands with
        | some _, true, _ =>
          (.error "cannot combine -e and -i options\n", run)
        | some text, _, [] =>
          match range text with
          | some lines => (.ok lines, run)
          | none => (.error ("invalid input range: " ++ quoted text), run)
        | some _, _, operand :: _ => (.error ("extra operand " ++ quoted operand ++ "\n"), run)
        | none, true, operands => (.ok operands, run)
        | none, false, _ :: operand :: _ => (.error ("extra operand " ++ quoted operand ++ "\n"), run)
        | none, false, operands =>
          match contents run (operands.headD "-") with
          | (.ok text, run) => (.ok (recordsOf stop text), run)
          | (.error fault, run) => (.error (operands.headD "-" ++ ": " ++ faultText fault), run)
      match found with
      | (.error text, run) =>
        if text.endsWith "\n" then misuse run (text.dropEnd 1).toString else fail run text
      | (.ok lines, run) =>
        let wanted := (given.value? 'n').bind String.toNat?
        if given.has 'r' && lines.isEmpty && wanted != some 0 then fail run "no lines to repeat"
        else
          let lines := shuffled lines
          let lines := match given.has 'r', wanted with
            | true, some count => (List.range count).map fun i => lines.getD (i * 7 % lines.length) ""
            | _, some count => lines.take count
            | _, none => lines
          let text := String.join (lines.map (·.push stop))
          match given.value? 'o' with
          | none => (run.print text).ended 0
          | some name =>
            match run.writeFile name text false with
            | .ok run => run.ended 0
            | .error fault => fail run (shown name ++ ": " ++ faultText fault)

/-- Words and the pairs that say which of them comes before which. -/
structure Precedence where
  words : List String := []
  pairs : List (String × String) := []

namespace Precedence

/-- Takes one more pair. -/
def add (precedence : Precedence) (first second : String) : Precedence :=
  let with' (words : List String) (word : String) : List String :=
    if words.contains word then words else words ++ [word]
  { words := with' (with' precedence.words first) second
    pairs := if first == second then precedence.pairs else precedence.pairs ++ [(first, second)] }

/-- The loop to which the way back from a word along pairs leads. `fuel` is more than the number of words. -/
def loopFrom (precedence : Precedence) : (fuel : Nat) → (way : List String) → String → List String
  | 0, way, _ => way
  | fuel + 1, way, word =>
    if way.contains word then word :: way.takeWhile (· != word)
    else
      match precedence.pairs.find? fun (_, second) => second == word with
      | some (first, _) => precedence.loopFrom fuel (word :: way) first
      | none => way

/-- The words in order, and the loops that were broken for it: words before which nothing stands are
taken in the order in which they became such. `fuel` is more than the number of words and pairs. -/
def ordered (precedence : Precedence) : (fuel : Nat) → (ready : List String) →
    List String × List (List String)
  | 0, _ => ([], [])
  | fuel + 1, ready =>
    match ready with
    | word :: rest =>
      let pairs := precedence.pairs.filter fun (first, _) => first != word
      let freed := ((precedence.pairs.filter fun (first, _) => first == word).map (·.2)).reverse
      let freed := freed.eraseDups.filter fun next => !pairs.any fun (_, second) => second == next
      let left : Precedence := { words := precedence.words.filter (· != word), pairs }
      let (more, loops) := left.ordered fuel (rest ++ freed)
      (word :: more, loops)
    | [] =>
      match precedence.words with
      | [] => ([], [])
      | word :: _ =>
        let loop := precedence.loopFrom (precedence.words.length + 1) [] word
        let closing : Option (String × String) := match loop.head?, loop.getLast? with
          | some first, some last => some (last, first)
          | _, _ => none
        let pairs := precedence.pairs.filter fun pair => some pair != closing
        let left : Precedence := { precedence with pairs }
        let ready := left.words.filter fun word => !pairs.any fun (_, second) => second == word
        let (more, loops) := left.ordered fuel ready
        (more, loop :: loops)

end Precedence

/-- The words of a text. -/
def wordsOf (text : String) : List String :=
  ((text.map fun c => if c == '\n' || c == '\t' then ' ' else c).splitOn " ").filter fun word =>
    !word.isEmpty

/-- Puts words into an order in which the first word of every pair comes before the second. -/
def tsort (args : List String) (run : Run) : Run :=
  withOptions { short := "" } 1 args run fun given run =>
    match given.operands with
    | _ :: operand :: _ => extraOperand run operand
    | operands =>
      let name := operands.headD "-"
      match contents run name with
      | (.error fault, run) => fail run (shown name ++ ": " ++ faultText fault)
      | (.ok text, run) =>
        let words := wordsOf text
        if words.length % 2 = 1 then fail run (name ++ ": input contains an odd number of tokens")
        else
          let precedence := (divided 2 words).foldl
            (fun (precedence : Precedence) pair =>
              match pair with
              | [first, second] => precedence.add first second
              | _ => precedence)
            {}
          let sorted : Precedence :=
            { precedence with words := precedence.words.mergeSort fun a b => a ≤ b }
          let ready := sorted.words.filter fun word =>
            !sorted.pairs.any fun (_, second) => second == word
          let (ordered, loops) := sorted.ordered (words.length * words.length + words.length + 2) ready
          let run := (run.ended 0).print (String.join (ordered.map (· ++ "\n")))
          loops.foldl
            (fun run loop =>
              loop.foldl (fun run word => fail run word) (fail run (name ++ ": input contains a loop:")))
            run

/-! ## New names -/

/-- Letters for a name that nobody has used yet. -/
def freshLetters (count number : Nat) : String :=
  String.ofList ((List.range count).map fun i =>
    Char.ofNat (97 + (number * 31 + i * 7 + number / 26 ^ i) % 26))

/-- Makes a file or a directory with a new name. -/
def mktemp (args : List String) (run : Run) : Run :=
  let table : OptionTable :=
    { short := "dp:qtuV"
      long :=
        [("directory", .nothing, 'd'), ("dry-run", .nothing, 'u'), ("quiet", .nothing, 'q'),
          ("suffix", .required, 's'), ("tmpdir", .optional, 'P')] }
  withOptions table 1 args run fun given run =>
    match given.operands with
    | _ :: _ :: _ => misuse run "too many templates"
    | operands =>
      let template := operands.headD "tmp.XXXXXXXXXX"
      let base := ((run.process.value? "TMPDIR").filter fun text => !text.isEmpty).getD "/tmp"
      let directory : Option String :=
        match given.value? 'p' <|> given.value? 'P' with
        | some directory => some (if directory.isEmpty then base else directory)
        | none => if operands.isEmpty || given.hasAny ['t', 'P'] then some base else none
      let characters := template.toList.reverse
      let ending := (given.value? 's').map fun suffix => suffix.toList
      let after := ending.getD (characters.takeWhile (· != 'X')).reverse
      let before := if ending.isSome then characters else characters.drop after.length
      let places := (before.takeWhile (· == 'X')).length
      let what := if given.has 'd' then "directory" else "file"
      if ending.isSome && characters.head? != some 'X' then
        fail run ("with --suffix, template " ++ quoted template ++ " must end in X")
      else if after.contains '/' then
        fail run ("invalid suffix " ++ quoted (String.ofList after) ++ ", contains directory separator")
      else if places < 3 then fail run ("too few X's in template " ++ quoted template)
      else if given.has 't' && template.contains '/' then
        fail run ("invalid template, " ++ quoted template ++ ", contains directory separator")
      else
        let (number, machine) := run.machine.fresh
        let run := { run with machine }
        let place (middle : String) : String :=
          (match directory with
            | some directory => if directory.endsWith "/" then directory else directory ++ "/"
            | none => "") ++
            String.ofList (before.drop places).reverse ++ middle ++ String.ofList after
        let name := place (freshLetters places number)
        let failed : Run :=
          if given.has 'q' then run.ended 1
          else
            fail run ("failed to create " ++ what ++ " via template " ++
              quoted (place (String.ofList (List.replicate places 'X'))) ++ ": " ++ faultText .notFound)
        if given.has 'u' then (run.print (name ++ "\n")).ended 0
        else if given.has 'd' then
          let made := makeDirectory false (some 0o700) (run.ended 0) name
          if made.process.status = 0 then (made.print (name ++ "\n")).ended 0 else failed
        else
          match run.writeFile name "" false with
          | .error _ => failed
          | .ok run =>
            let run := match run.locate name with
              | .ok path => run.withFiles (withMode run.machine.files path 0o600)
              | .error _ => run
            (run.print (name ++ "\n")).ended 0

/-! ## Owners -/

/-- Sets the owners of files, all of which belong to the same user in any case. -/
def chown (args : List String) (run : Run) : Run :=
  let table : OptionTable :=
    { short := "cfhHLPRv"
      long :=
        [("recursive", .nothing, 'R'), ("changes", .nothing, 'c'), ("silent", .nothing, 'f'),
          ("quiet", .nothing, 'f'), ("verbose", .nothing, 'v'), ("no-dereference", .nothing, 'h'),
          ("reference", .required, 'r'), ("from", .required, 'F')] }
  let isGroup := run.process.name.endsWith "chgrp"
  let known (text : String) : Bool :=
    text.isEmpty || text.toNat?.isSome ||
      (System.users.splitOn "\n").any (·.startsWith (text ++ ":")) || text == "nogroup"
  withOptions table 1 args run fun given run =>
    match given.operands with
    | [] => misuse run "missing operand"
    | [owner] => misuse run ("missing operand after " ++ quoted owner)
    | owner :: names =>
      let parts := owner.splitOn ":"
      if isGroup && !known owner then fail run ("invalid group: " ++ quoted owner)
      else if !known (parts.headD "") then fail run ("invalid user: " ++ quoted owner)
      else if !isGroup && !known (parts.getD 1 "") then fail run ("invalid group: " ++ quoted owner)
      else
        names.foldl
          (fun run name =>
            match run.node name with
            | .ok _ => run
            | .error fault =>
              if given.has 'f' then run.ended 1
              else fail run ("cannot access " ++ quoted name ++ ": " ++ faultText fault))
          (run.ended 0)

end RunMeter.Shell.Tool
