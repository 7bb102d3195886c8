import RunMeter.Shell.Pattern
import RunMeter.Shell.Regex.Reader
import RunMeter.Shell.Tool.Launching
import RunMeter.Shell.Tool.Listing

/-!
# Walking through directories

`find` goes through directories and all that lies in them, and judges every file by an expression of
tests and actions. An expression is a `Criterion`; reading one, judging a file by one and walking are
three steps that know nothing of each other's insides.
-/

set_option autoImplicit false

namespace RunMeter.Shell.Tool

/-! ## Expressions -/

/-- How a number is compared with another: it is to be larger, smaller or equal. -/
structure NumberTest where
  sign : Option Char
  value : Nat
deriving DecidableEq, Repr

/-- Whether a number passes. -/
def NumberTest.accepts (test : NumberTest) (n : Nat) : Bool :=
  match test.sign with
  | some '+' => test.value < n
  | some _ => n < test.value
  | none => n = test.value

/-- Reads a number to compare with. -/
def NumberTest.read? (text : String) : Option NumberTest :=
  let (sign, digits) : Option Char × List Char := match text.toList with
    | '+' :: rest => (some '+', rest)
    | '-' :: rest => (some '-', rest)
    | rest => (none, rest)
  if digits.isEmpty || !digits.all Char.isDigit then none
  else some { sign, value := Decimal.value digits }

/-- Which text of a file a pattern is compared with. -/
inductive NameView
  | lastStep
  | wholeName
  | linkTarget
deriving DecidableEq, Repr

/-- What is asked about a file, or done with it. -/
inductive Criterion
  | constant (value : Bool)
  | named (view : NameView) (ignoresCase : Bool) (glob : String)
  | described (regex : Regex)
  | kind (letters : List Char)
  | empty
  | sized (unit : Nat) (test : NumberTest)
  | permitted (mark : Option Char) (mode : Nat)
  | newer (place : Nat)
  | aged (test : NumberTest)
  | linked (test : NumberTest)
  | same (path : Path)
  | runnable
  | print (ending : String) (file : Option String)
  | printBy (format : String)
  | longPrint
  | prune
  | quit
  | delete
  | start (isHere asks : Bool) (words : List String)
  /-- A program for many files at once, with a number of its own. -/
  | gather (number : Nat) (words : List String)
  | not (inner : Criterion)
  | both (first second : Criterion)
  | either (first second : Criterion)
  | sequence (first second : Criterion)

/-- Whether a criterion does something by which files are not printed of their own. -/
def Criterion.hasAction : Criterion → Bool
  | .print _ _ | .printBy _ | .longPrint | .quit | .delete | .start _ _ _ | .gather _ _ => true
  | .not inner => inner.hasAction
  | .both a b | .either a b | .sequence a b => a.hasAction || b.hasAction
  | _ => false

/-- Whether a criterion deletes files. -/
def Criterion.deletes : Criterion → Bool
  | .delete => true
  | .not inner => inner.deletes
  | .both a b | .either a b | .sequence a b => a.deletes || b.deletes
  | _ => false

/-- The programs that are started for many files at once. -/
def Criterion.gathers : Criterion → List (Nat × List String)
  | .gather number words => [(number, words)]
  | .not inner => inner.gathers
  | .both a b | .either a b | .sequence a b => a.gathers ++ b.gathers
  | _ => []

/-- What holds for a whole walk. -/
structure WalkOptions where
  minDepth : Nat := 0
  maxDepth : Option Nat := none
  isPostOrder : Bool := false
  isExtended : Bool := false
deriving Repr

/-- The words of an expression that are left, and the options that have been met. -/
structure CriterionReader where
  words : List String
  options : WalkOptions := {}
  run : Run

/-- The outcome of reading a part of an expression. -/
abbrev CriterionReading := Except String (Criterion × CriterionReader)

/-- The octets that the letter behind a size stands for. -/
def sizeUnit? : List Char → Option Nat
  | [] | ['b'] => some 512
  | ['c'] => some 1
  | ['w'] => some 2
  | ['k'] => some 1024
  | ['M'] => some 1048576
  | ['G'] => some 1073741824
  | _ => none

/-- The place of a file in the order of changes. -/
def placeInOrder (files : Files) (path : Path) : Nat :=
  ((files.entries.map (·.1)).idxOf? path).getD 0

/-- The words of a program up to their end, and whether it is started for many files. -/
def programWords : List String → List String → Option (List String × Bool × List String)
  | _, [] => none
  | reversed, ";" :: rest => some (reversed.reverse, false, rest)
  | reversed, word :: "+" :: rest =>
    if word == "\x7b\x7d" then some (reversed.reverse, true, rest)
    else programWords (word :: reversed) ("+" :: rest)
  | reversed, word :: rest => programWords (word :: reversed) rest

/-- Reads a test or an action that has a value. -/
def CriterionReader.valued (reader : CriterionReader) (name value : String) :
    Except String (Option (Criterion × WalkOptions)) :=
  let options := reader.options
  let found (criterion : Criterion) : Except String (Option (Criterion × WalkOptions)) :=
    .ok (some (criterion, options))
  let constant (options : WalkOptions) : Except String (Option (Criterion × WalkOptions)) :=
    .ok (some (.constant true, options))
  let numbered (use : NumberTest → Criterion) : Except String (Option (Criterion × WalkOptions)) :=
    match NumberTest.read? value with
    | some test => found (use test)
    | none => .error ("invalid argument \x60" ++ value ++ "' to \x60" ++ name ++ "'")
  let depth (use : Nat → WalkOptions) : Except String (Option (Criterion × WalkOptions)) :=
    if !value.isEmpty && value.all Char.isDigit then constant (use (Decimal.value value.toList))
    else
      .error ("Expected a positive decimal integer argument to " ++ name ++ ", but got " ++ quoted value)
  let known (what : String) : Except String (Option (Criterion × WalkOptions)) :=
    let isNumber := !value.isEmpty && value.all Char.isDigit
    let isKnown := (System.users.splitOn "\n").any fun line => line.startsWith (value ++ ":")
    if isNumber then found (.constant (value == "0"))
    else if isKnown then found (.constant (value == "root"))
    else .error (quoted value ++ " is not the name of " ++ what)
  match name with
  | "-name" => found (.named .lastStep false value)
  | "-iname" => found (.named .lastStep true value)
  | "-path" | "-wholename" => found (.named .wholeName false value)
  | "-ipath" | "-iwholename" => found (.named .wholeName true value)
  | "-lname" => found (.named .linkTarget false value)
  | "-ilname" => found (.named .linkTarget true value)
  | "-regex" | "-iregex" =>
    match Regex.read { isExtended := options.isExtended, ignoresCase := name == "-iregex" } value with
    | .ok regex => found (.described (.seq (.border .textStart) (.seq regex (.border .textEnd))))
    | .error fault => .error fault.message
  | "-regextype" => constant { options with isExtended := (value.splitOn "extended").length > 1 || value == "egrep" }
  | "-type" | "-xtype" =>
    let letters := (value.splitOn ",").flatMap String.toList
    match letters.find? fun c => !"bcdpflsD".contains c with
    | some c => .error ("Unknown argument to " ++ name ++ ": " ++ String.ofList [c])
    | none =>
      if letters.isEmpty then .error ("Arguments to " ++ name ++ " should contain at least one letter")
      else found (.kind letters)
  | "-size" =>
    let (sign, text) : Option Char × List Char := match value.toList with
      | '+' :: rest => (some '+', rest)
      | '-' :: rest => (some '-', rest)
      | rest => (none, rest)
    let digits := text.takeWhile Char.isDigit
    match digits, sizeUnit? (text.drop digits.length) with
    | [], _ => .error ("Invalid argument \x60" ++ value ++ "' to -size")
    | _, none =>
      .error ("invalid -size type \x60" ++ String.ofList ((text.drop digits.length).take 1) ++ "'")
    | digits, some unit => found (.sized unit { sign, value := Decimal.value digits })
  | "-perm" =>
    let (mark, text) : Option Char × List Char := match value.toList with
      | '-' :: rest => (some '-', rest)
      | '/' :: rest => (some '/', rest)
      | rest => (none, rest)
    match newMode? 0 false 0 (String.ofList text) with
    | some mode => found (.permitted mark mode)
    | none => .error ("invalid mode " ++ quoted value)
  | "-newer" | "-anewer" | "-cnewer" =>
    match reader.run.locate value >>= fun path => (reader.run.nodeAt path).map fun _ => path with
    | .ok path => found (.newer (placeInOrder reader.run.machine.files path))
    | .error fault => .error (quoted value ++ ": " ++ faultText fault)
  | "-samefile" =>
    match reader.run.locateItself value with
    | .ok path => found (.same path)
    | .error fault => .error (quoted value ++ ": " ++ faultText fault)
  | "-mtime" | "-atime" | "-ctime" | "-mmin" | "-amin" | "-cmin" | "-used" => numbered .aged
  | "-links" => numbered .linked
  | "-inum" => numbered fun _ => .constant false
  | "-uid" | "-gid" => numbered fun test => .constant (test.accepts 0)
  | "-user" => known "a known user"
  | "-group" => known "an existing group"
  | "-fstype" => found (.constant false)
  | "-maxdepth" => depth fun n => { options with maxDepth := some n }
  | "-mindepth" => depth fun n => { options with minDepth := n }
  | "-printf" => found (.printBy value)
  | "-fprint" => found (.print "\n" (some value))
  | "-fprint0" => found (.print (String.ofList [Char.ofNat 0]) (some value))
  | _ => .ok none

/-- Reads a test or an action without a value. -/
def CriterionReader.plain? (reader : CriterionReader) (name : String) :
    Option (Criterion × WalkOptions) :=
  let options := reader.options
  match name with
  | "-true" | "-readable" | "-writable" | "-noleaf" | "-xdev" | "-mount" | "-warn" | "-nowarn"
  | "-ignore_readdir_race" | "-noignore_readdir_race" | "-follow" | "-daystart" =>
    some (.constant true, options)
  | "-false" | "-nouser" | "-nogroup" => some (.constant false, options)
  | "-empty" => some (.empty, options)
  | "-executable" => some (.runnable, options)
  | "-print" => some (.print "\n" none, options)
  | "-print0" => some (.print (String.ofList [Char.ofNat 0]) none, options)
  | "-ls" => some (.longPrint, options)
  | "-prune" => some (.prune, options)
  | "-quit" => some (.quit, options)
  | "-delete" => some (.delete, { options with isPostOrder := true })
  | "-depth" | "-d" => some (.constant true, { options with isPostOrder := true })
  | _ => none

/-- Whether a word joins two parts of an expression. -/
def isJoint (word : String) : Bool := ["-o", "-or", "-a", "-and", ","].contains word

mutual

/-- Reads one test or action, or an expression in parentheses. -/
def CriterionReader.one (fuel : Nat) (reader : CriterionReader) : CriterionReading :=
  match fuel with
  | 0 => .error "expression too long"
  | fuel + 1 =>
    let missing (name : String) : CriterionReading :=
      .error ("missing argument to \x60" ++ name ++ "'")
    match reader.words with
    | [] => .error "expected an expression"
    | "!" :: rest | "-not" :: rest =>
      if rest.isEmpty then .error ("expected an expression after " ++ quoted (reader.words.headD ""))
      else do
        let (inner, reader) ← CriterionReader.one fuel { reader with words := rest }
        .ok (.not inner, reader)
    | "(" :: rest => do
      if rest.isEmpty then
        throw "invalid expression; expected to find a ')' but didn't see one. Perhaps you need an extra predicate after '('"
      let (inner, reader) ← CriterionReader.list fuel { reader with words := rest }
      match reader.words with
      | ")" :: rest => .ok (inner, { reader with words := rest })
      | _ =>
        .error "invalid expression; I was expecting to find a ')' somewhere but did not see one."
    | ")" :: _ =>
      .error "invalid expression; you have used a binary operator ')' with nothing before it."
    | name :: rest =>
      if isJoint name then
        .error ("invalid expression; you have used a binary operator " ++ quoted name ++
          " with nothing before it.")
      else
        match reader.plain? name with
        | some (criterion, options) => .ok (criterion, { reader with words := rest, options })
        | none =>
          if ["-exec", "-execdir", "-ok", "-okdir"].contains name then
            let isHere := name.endsWith "dir"
            match programWords [] rest with
            | none | some ([], _, _) => missing name
            | some (words, false, rest) =>
              .ok (.start isHere (name.startsWith "-ok") words, { reader with words := rest })
            | some (words, true, rest) =>
              if words.contains "\x7b\x7d" then
                .error ("Only one instance of \x7b\x7d is supported with " ++ name ++ " ... +")
              else .ok (.gather rest.length words, { reader with words := rest })
          else
            match reader.valued name (rest.headD "") with
            | .ok none =>
              if name.startsWith "-" then .error ("unknown predicate \x60" ++ name ++ "'")
              else .error ("paths must precede expression: \x60" ++ name ++ "'")
            | .ok (some (criterion, options)) =>
              if rest.isEmpty then missing name
              else .ok (criterion, { reader with words := rest.drop 1, options })
            | .error text => if rest.isEmpty then missing name else .error text

/-- Reads what follows the first of several criteria that all have to hold. -/
def CriterionReader.moreBoth (fuel : Nat) (first : Criterion) (reader : CriterionReader) :
    CriterionReading :=
  match fuel with
  | 0 => .error "expression too long"
  | fuel + 1 =>
    match reader.words with
    | [] | ")" :: _ | "-o" :: _ | "-or" :: _ | "," :: _ => .ok (first, reader)
    | word :: rest => do
      let isJoined := word == "-a" || word == "-and"
      if isJoined && rest.isEmpty then
        throw ("expected an expression after " ++ quoted word)
      let (second, reader) ←
        CriterionReader.one fuel (if isJoined then { reader with words := rest } else reader)
      CriterionReader.moreBoth fuel (.both first second) reader

/-- Reads what follows the first of several criteria of which one has to hold. -/
def CriterionReader.moreEither (fuel : Nat) (first : Criterion) (reader : CriterionReader) :
    CriterionReading :=
  match fuel with
  | 0 => .error "expression too long"
  | fuel + 1 =>
    match reader.words with
    | word :: rest =>
      if word == "-o" || word == "-or" then do
        if rest.isEmpty then throw ("expected an expression after " ++ quoted word)
        let (second, reader) ← CriterionReader.one fuel { reader with words := rest }
        let (second, reader) ← CriterionReader.moreBoth fuel second reader
        CriterionReader.moreEither fuel (.either first second) reader
      else .ok (first, reader)
    | [] => .ok (first, reader)

/-- Reads what follows the first of several criteria that are judged in turn. -/
def CriterionReader.moreInTurn (fuel : Nat) (first : Criterion) (reader : CriterionReader) :
    CriterionReading :=
  match fuel with
  | 0 => .error "expression too long"
  | fuel + 1 =>
    match reader.words with
    | "," :: rest => do
      if rest.isEmpty then throw "expected an expression after ','"
      let (second, reader) ← CriterionReader.one fuel { reader with words := rest }
      let (second, reader) ← CriterionReader.moreBoth fuel second reader
      let (second, reader) ← CriterionReader.moreEither fuel second reader
      CriterionReader.moreInTurn fuel (.sequence first second) reader
    | _ => .ok (first, reader)

/-- Reads an expression. -/
def CriterionReader.list (fuel : Nat) (reader : CriterionReader) : CriterionReading :=
  match fuel with
  | 0 => .error "expression too long"
  | fuel + 1 => do
    let (first, reader) ← CriterionReader.one fuel reader
    let (first, reader) ← CriterionReader.moreBoth fuel first reader
    let (first, reader) ← CriterionReader.moreEither fuel first reader
    CriterionReader.moreInTurn fuel first reader

end

/-- Reads a whole expression. Files are printed if it does nothing else with them. -/
def readCriterion (words : List String) (run : Run) : Except String (Criterion × WalkOptions) := do
  if words.isEmpty then return (.print "\n" none, {})
  let (criterion, reader) ← CriterionReader.list (4 * words.length + 8) { words, run }
  match reader.words with
  | [] =>
    let whole := if criterion.hasAction then criterion else .both criterion (.print "\n" none)
    return (whole, reader.options)
  | ")" :: _ => throw "you have too many ')'"
  | word :: _ => throw ("paths must precede expression: \x60" ++ word ++ "'")

/-! ## Judging -/

/-- A file that a walk has come to. -/
structure Visited where
  name : String
  /-- The name from which the walk set out. -/
  start : String
  path : Path
  node : FileNode
  depth : Nat

/-- How far a walk has come. -/
structure WalkState where
  run : Run
  hasFailed : Bool := false
  isOver : Bool := false
  /-- Whether nothing below the current file is wanted. -/
  isPruned : Bool := false
  /-- The names for programs that are started for many files, the last one first. -/
  gathered : List (Nat × String) := []
  /-- The complaints about formats so far. -/
  doubts : List String := []

/-- Notes a failure. -/
def WalkState.complain (state : WalkState) (text : String) : WalkState :=
  { state with
    hasFailed := true
    run := state.run.write 2 (state.run.process.name ++ ": " ++ text ++ "\n") }

/-- The letter that an expression has for the kind of a file. -/
def kindOf : FileNode → Char
  | .file _ _ => 'f'
  | .directory _ => 'd'
  | .link _ => 'l'
  | .device _ => 'c'

/-- Whether a text fits a glob. -/
def fitsGlob (ignoresCase : Bool) (glob text : String) : Bool :=
  let fold (text : String) : String := if ignoresCase then text.map Char.toLower else text
  (Pattern.ofMarks ((fold glob).toList.map fun c => (c, false))).accepts (fold text).toList

/-- What one directive of a format stands for. -/
def Visited.field (visited : Visited) (files : Files) (moment : Moment) (c : Char) : Option String :=
  let below := (visited.name.drop visited.start.length).toString
  match c with
  | 'p' => some visited.name
  | 'f' => some (lastStep visited.name "")
  | 'h' =>
    if visited.name.contains '/' then
      some (String.ofList (((visited.name.toList.reverse.dropWhile (· != '/')).drop 1).reverse))
    else some "."
  | 'P' => some (if below.startsWith "/" then (below.drop 1).toString else below)
  | 'H' => some visited.start
  | 'd' => some (toString visited.depth)
  | 's' => some (toString (sizeOf visited.node))
  | 'k' => some (toString (blocksOf visited.node))
  | 'b' => some (toString (2 * blocksOf visited.node))
  | 'y' | 'Y' => some (String.ofList [kindOf visited.node])
  | 'm' => some (String.ofList (Nat.toDigits 8 (modeOf visited.node)))
  | 'M' => some (String.ofList [kindLetter visited.node] ++ modeText (modeOf visited.node))
  | 'u' | 'g' => some "root"
  | 'U' | 'G' => some "0"
  | 'n' => some (toString (linkCount files visited.path visited.node))
  | 'i' => some (toString (placeInOrder files visited.path + 2))
  | 'D' => some "1"
  | 'l' => some (match visited.node with
      | .link target => Text.octets target
      | _ => "")
  | 't' | 'a' | 'c' => some (moment.render "%a %b %e %H:%M:%S.%N0 %Y")
  | _ => none

/-- A format with its directives replaced, and the complaints about it. `fuel` is more than its
length. -/
def Visited.formatted (visited : Visited) (files : Files) (moment : Moment) :
    (fuel : Nat) → List Char → String × List String
  | 0, _ => ("", [])
  | _, [] => ("", [])
  | fuel + 1, c :: rest =>
    let go (text : String) (rest : List Char) : String × List String :=
      let (more, faults) := visited.formatted files moment fuel rest
      (text ++ more, faults)
    match c, rest with
    | '%', '%' :: more => go "%" more
    | '%', 'T' :: '@' :: more => go (toString moment.seconds ++ ".0000000000") more
    | '%', 'T' :: k :: more => go (moment.render (String.ofList ['%', k])) more
    | '%', _ =>
      let flags := rest.takeWhile fun c => "-0 +#".contains c
      let digits := (rest.drop flags.length).takeWhile Char.isDigit
      match rest.drop (flags.length + digits.length) with
      | [] => ("%", [])
      | k :: more =>
        match visited.field files moment k with
        | some text =>
          let width := Decimal.value digits
          go (if flags.contains '-' then rightPadded width text else leftPadded width text) more
        | none =>
          let (text, faults) := go (String.ofList ('%' :: flags ++ digits ++ [k])) more
          (text, ("warning: unrecognized format directive \x60%" ++ String.ofList [k] ++ "'") :: faults)
    | '\\', 'c' :: _ => ("", [])
    | '\\', _ :: _ =>
      let (d, more) := Print.escape (.shell .plain) rest
      go (String.ofList [d]) more
    | c, _ => go (String.ofList [c]) rest

/-- Starts a program for one file. -/
def WalkState.startFor (launch : Launcher) (state : WalkState) (visited : Visited) (isHere : Bool)
    (words : List String) : Bool × WalkState :=
  let shown := if isHere then "./" ++ lastStep visited.name "" else visited.name
  let words := words.map fun word => word.replace "\x7b\x7d" shown
  match words with
  | [] => (false, state)
  | name :: args =>
    let before := state.run.process
    let begun := if isHere then
        state.run.onProcess fun process =>
          { process with directory := visited.path.above, place := visited.path.above }
      else state.run
    let (outcome, run) := carryOut launch name args begun
    let run := run.onProcess fun process =>
      { process with directory := before.directory, place := before.place }
    let state := { state with run }
    match outcome with
    | .exited status => (status = 0, state)
    | .killed _ => (false, state)
    | .refused fault =>
      (false, { state with
        run := state.run.write 2
          (state.run.process.name ++ ": " ++ quoted name ++ ": " ++ fault.reason ++ "\n") })

/-- Deletes a file. -/
def WalkState.delete (state : WalkState) (visited : Visited) : Bool × WalkState :=
  let files := state.run.machine.files
  if visited.name == "." || visited.name == "./" then (true, state)
  else if visited.node.isDirectory && hasMembers files visited.path then
    (false, state.complain ("cannot delete " ++ quoted visited.name ++ ": Directory not empty"))
  else (true, { state with run := state.run.withFiles (files.erase visited.path) })

/-- Judges a file. -/
def Criterion.judge (launch : Launcher) (visited : Visited) :
    Criterion → WalkState → Bool × WalkState
  | .constant value, state => (value, state)
  | .named view ignoresCase glob, state =>
    let text : Option String := match view, visited.node with
      | .lastStep, _ => some (lastStep visited.name "")
      | .wholeName, _ => some visited.name
      | .linkTarget, .link target => some (Text.octets target)
      | .linkTarget, _ => none
    (text.any (fitsGlob ignoresCase glob), state)
  | .described regex, state => ((regex.find? visited.name.toList.toArray 0).isSome, state)
  | .kind letters, state => (letters.contains (kindOf visited.node), state)
  | .empty, state =>
    (match visited.node with
      | .file content _ => content.isEmpty
      | .directory _ => !hasMembers state.run.machine.files visited.path
      | _ => false, state)
  | .sized unit test, state => (test.accepts ((sizeOf visited.node + unit - 1) / unit), state)
  | .permitted mark mode, state =>
    let own := modeOf visited.node
    (match mark with
      | none => own = mode
      | some '-' => own &&& mode = mode
      | some _ => mode = 0 || own &&& mode != 0, state)
  | .newer place, state => (place < placeInOrder state.run.machine.files visited.path, state)
  | .aged test, state => (test.accepts 0, state)
  | .linked test, state =>
    (test.accepts (linkCount state.run.machine.files visited.path visited.node), state)
  | .same path, state => (path = visited.path, state)
  | .runnable, state =>
    (match visited.node with
      | .directory _ => true
      | node => modeOf node &&& 0o111 != 0, state)
  | .print ending none, state =>
    (true, { state with run := state.run.print (visited.name ++ ending) })
  | .print ending (some file), state =>
    (match state.run.writeFile file (visited.name ++ ending) true with
      | .ok run => (true, { state with run })
      | .error fault => (true, state.complain (quoted file ++ ": " ++ faultText fault)))
  | .printBy format, state =>
    let (text, faults) := visited.formatted state.run.machine.files (Moment.of epoch 0 0)
      (format.length + 1) format.toList
    -- a format is complained about once
    let faults := faults.filter fun fault => !state.doubts.contains fault
    let run := faults.foldl
      (fun run fault => run.write 2 (run.process.name ++ ": " ++ fault ++ "\n")) state.run
    (true, { state with run := run.print text, doubts := state.doubts ++ faults })
  | .longPrint, state =>
    let files := state.run.machine.files
    let item : Listed := { name := visited.name, path := visited.path, node := visited.node }
    let line := (longLines files { options := [] } (Moment.of epoch 0 0) [item]).headD ""
    let lead := leftPadded 9 (toString (placeInOrder files visited.path + 2)) ++ " " ++
      leftPadded 6 (toString (blocksOf visited.node)) ++ " "
    (true, { state with run := state.run.print (lead ++ line ++ "\n") })
  | .prune, state => (true, { state with isPruned := true })
  | .quit, state => (true, { state with isOver := true })
  | .delete, state => state.delete visited
  | .start isHere asks words, state =>
    if asks then
      let run := state.run.write 2 ("< " ++ words.headD "" ++ " ... " ++ visited.name ++ " > ? ")
      let (answer, _, run) := run.readLine 0
      let state := { state with run }
      if answer.startsWith "y" || answer.startsWith "Y" then
        state.startFor launch visited isHere words
      else (false, state)
    else state.startFor launch visited isHere words
  | .gather number _, state =>
    (true, { state with gathered := (number, visited.name) :: state.gathered })
  | .not inner, state =>
    let (holds, state) := inner.judge launch visited state
    (!holds, state)
  | .both first second, state =>
    let (holds, state) := first.judge launch visited state
    if holds && !state.isOver && state.run.goesOn then second.judge launch visited state
    else (false, state)
  | .either first second, state =>
    let (holds, state) := first.judge launch visited state
    if !holds && !state.isOver && state.run.goesOn then second.judge launch visited state
    else (holds, state)
  | .sequence first second, state =>
    let (_, state) := first.judge launch visited state
    if !state.isOver && state.run.goesOn then second.judge launch visited state else (false, state)

/-! ## Walking -/

/-- A walk: what it judges by, and how. -/
structure Walk where
  launch : Launcher
  criterion : Criterion
  options : WalkOptions
  /-- Whether links are followed. -/
  followsLinks : Bool

/-- Judges a file if it lies deep enough. -/
def Walk.visit (walk : Walk) (visited : Visited) (state : WalkState) : WalkState :=
  if visited.depth < walk.options.minDepth then state
  else (walk.criterion.judge walk.launch visited state).2

/-- What lies at a path, with links followed if the walk does so. -/
def Walk.resolved (walk : Walk) (run : Run) (path : Path) (node : FileNode) : Path × FileNode :=
  match node with
  | .link _ =>
    if walk.followsLinks then
      let (start, steps) := if path.head? == some "/" then (["/"], path.drop 1) else ([], path)
      match run.machine.files.follow true Files.maxLinks start steps >>= fun path =>
          (run.nodeAt path).map fun node => (path, node) with
      | .ok found => found
      | .error _ => (path, node)
    else (path, node)
  | node => (path, node)

mutual

/-- Walks through a file and all that lies in it. `fuel` is more than the number of levels. -/
def Walk.through (walk : Walk) (fuel : Nat) (visited : Visited) (state : WalkState) : WalkState :=
  match fuel with
  | 0 => state
  | fuel + 1 =>
    if state.isOver || !state.run.goesOn then state
    else
      let goesDeeper := visited.node.isDirectory && walk.options.maxDepth.all (visited.depth < ·)
      if walk.options.isPostOrder then
        let state := if goesDeeper then
            walk.each fuel visited (members state.run.machine.files visited.path) state
          else state
        if state.isOver || !state.run.goesOn then state else walk.visit visited state
      else
        let state := walk.visit visited { state with isPruned := false }
        if goesDeeper && !state.isPruned then
          walk.each fuel visited (members state.run.machine.files visited.path) state
        else { state with isPruned := false }

/-- Walks through the files of a directory. -/
def Walk.each (walk : Walk) (fuel : Nat) (visited : Visited) (found : List (String × FileNode))
    (state : WalkState) : WalkState :=
  match fuel with
  | 0 => state
  | fuel + 1 =>
    match found with
    | [] => state
    | (step, node) :: rest =>
      let lead := if visited.name.endsWith "/" then visited.name else visited.name ++ "/"
      let (path, node) := walk.resolved state.run (visited.path ++ [step]) node
      let name := lead ++ Text.octets step
      let state :=
        if node.isDirectory && (path = visited.path || Files.isBelow path visited.path) then
          state.complain ("File system loop detected; " ++ quoted name ++
            " is part of the same file system loop as " ++ quoted visited.start ++ ".")
        else walk.through fuel { visited with name, path, node, depth := visited.depth + 1 } state
      walk.each fuel visited rest state

end

/-- Walks from a name. -/
def Walk.from (walk : Walk) (followsStart : Bool) (state : WalkState) (name : String) : WalkState :=
  let path? := if followsStart || name.endsWith "/" then state.run.locate name
    else state.run.locateItself name
  match path? >>= fun path => (state.run.nodeAt path).map fun node => (path, node) with
  | .error fault => state.complain (quoted name ++ ": " ++ faultText fault)
  | .ok (path, node) =>
    walk.through (2 * state.run.machine.files.entries.length + 8)
      { name, start := name, path, node, depth := 0 } state

/-- Starts the programs for many files. -/
def startGathered (launch : Launcher) (state : WalkState) (number : Nat) (words : List String) :
    WalkState :=
  let names := state.gathered.reverse.filterMap fun (n, name) => if n = number then some name else none
  let own := (words.map fun word => word.length + 1).foldl (· + ·) 0
  let groups := argumentGroups none none (wordRoom - own) [] 0 0 (names.map fun name => (name, false))
  groups.foldl
    (fun state group =>
      match words ++ group with
      | [] => state
      | name :: args =>
        if !state.run.goesOn then state
        else
          let (outcome, run) := carryOut launch name args state.run
          let state := { state with run }
          match outcome with
          | .exited 0 => state
          | .exited _ | .killed _ => { state with hasFailed := true }
          | .refused fault => state.complain (quoted name ++ ": " ++ fault.reason))
    state

/-- Goes through directories. -/
def find (launch : Launcher) (args : List String) (run : Run) : Run :=
  let isOption (word : String) : Bool := ["-H", "-L", "-P"].contains word
  let (leading, words) := (args.takeWhile isOption, args.dropWhile isOption)
  let isName (word : String) : Bool :=
    !(word.startsWith "-" && word.length > 1) && !(["(", ")", "!", ","].contains word)
  let names := words.takeWhile isName
  let words := words.drop names.length
  match readCriterion words run with
  | .error text => fail run text
  | .ok (criterion, options) =>
    let walk : Walk :=
      { launch, criterion, options, followsLinks := leading.getLast? == some "-L" }
    let followsStart := leading.getLast?.any (· != "-P")
    let state := (if names.isEmpty then ["."] else names).foldl (walk.from followsStart)
      { run := run.ended 0 }
    let state := criterion.gathers.foldl
      (fun state (number, words) => startGathered launch state number words) state
    if state.run.goesOn then state.run.ended (if state.hasFailed then 1 else 0) else state.run

end RunMeter.Shell.Tool
